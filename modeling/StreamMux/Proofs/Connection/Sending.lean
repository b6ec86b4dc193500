import StreamMux.Proofs.Connection.Tally
import StreamMux.Proofs.Stream.Credit

/-!
# What a flush writes

In a flush every stream that waits to send and was not reset has one turn, in the order of the
queue. It writes the longest beginning of its payload that its credit covers
(`Stream.takesTurn_served`). Those that have payload left wait again, in the same order, and the
others have ended their side (`Connection.Writes`). What the other streams have to send stays as
it is.
-/

namespace StreamMux

namespace Stream

variable {stream : Stream}

/-- What a turn in the queue for sending makes of a stream. -/
structure TakesTurn (before after : Stream) : Prop where
  written : ∃ written, before.pendingData = written ++ after.pendingData ∧
    LongestFit before.pendingData before.sendWindow.toInt written ∧
    after.sendWindow.toInt = before.sendWindow.toInt - totalSize written
  ended : after.pendingData = [] → after.state = .halfClosedLocal ∧ after.queued.send = false
  blocked : after.pendingData ≠ [] → after.state = before.state ∧ after.queued.send = true

/-- A stream has its turn in a flush when it waits to send and was not reset. -/
theorem takesTurn_served (initial : Int32) (waits : stream.queued.send = true)
    (unreset : stream.resetCode = none) : TakesTurn stream (stream.served initial) := by
  have payload := stream.payload_served initial
  have turn : (stream.queued.send && stream.resetCode.isNone) = true := by
    rw [waits, unreset]
    rfl
  rw [payloadAfterFlush, if_pos turn] at payload
  obtain ⟨data, credit⟩ := Prod.mk.inj payload
  obtain ⟨written, split, longest, left⟩ := transmit_longest stream.pendingData stream.sendWindow
  have queued : (stream.served initial).queued.send =
      !(stream.served initial).pendingData.isEmpty := by
    rw [queued_served, turn, data, payloadAfterFlush, if_pos turn]
    rfl
  have state : (stream.served initial).state =
      if (stream.served initial).pendingData.isEmpty then .halfClosedLocal else stream.state := by
    rw [data, served, prepared_eq, turned, turn, if_pos rfl]
    rfl
  constructor
  · refine ⟨written, ?_, longest, ?_⟩
    · rw [data]
      exact split
    · rw [credit]
      exact left
  · intro empty
    rw [state, queued, empty]
    exact ⟨rfl, rfl⟩
  · intro more
    have filled : (stream.served initial).pendingData.isEmpty = false := by
      simpa using more
    rw [state, queued, filled]
    exact ⟨rfl, rfl⟩

/-- A stream that does not wait to send keeps its payload and its credit in a flush. -/
theorem payload_served_of_idle (initial : Int32) (idle : stream.queued.send = false) :
    (stream.served initial).pendingData = stream.pendingData ∧
      (stream.served initial).sendWindow = stream.sendWindow := by
  have payload := stream.payload_served initial
  rw [payloadAfterFlush, idle, Bool.false_and, if_neg Bool.false_ne_true] at payload
  exact Prod.mk.inj payload

end Stream

namespace Connection

/-- The streams of the queue `line` that have a turn in a flush: those that were not reset. -/
def turns (conn : Connection) (line : List StreamId) : List StreamId :=
  line.filter fun id => (conn.store.lookup id).any (·.resetCode.isNone)

/-- Whether a stream has nothing left to send. -/
def spent (conn : Connection) (id : StreamId) : Bool :=
  (conn.store.lookup id).any (·.pendingData.isEmpty)

/-- A flush that answers `next` and `events` writes the payload of the streams of `line`, the queue
for sending. Those that were not reset have one turn each. The ones that have nothing left are
reported to have ended, the others to be blocked, and these are the queue afterwards, all in the
order of the queue. The other streams are as they were, but those that were reset are gone. -/
structure Writes (conn : Connection) (line : List StreamId) (next : Connection)
    (events : List Event) : Prop where
  turned : ∀ id ∈ conn.turns line, ∃ stream later, conn.store.lookup id = some stream ∧
    next.store.lookup id = some later ∧ stream.TakesTurn later
  ended : events.filter (Event.isOf .dispatched .send) =
    ((conn.turns line).filter next.spent).map (.dispatched .send "end_stream")
  blocked : events.filter (Event.isOf .queued .send) =
    ((conn.turns line).filter (!next.spent ·)).map (.queued .send "blocked_on_window")
  queue : ∃ keys, next.store.Names ((conn.turns line).filter (!next.spent ·)) keys ∧
    next.queues.send.Owns .send next.store keys
  others : ∀ id stream, conn.store.lookup id = some stream → id ∉ line →
    stream.resetCode = none → ∃ later, next.store.lookup id = some later ∧
      later.pendingData = stream.pendingData ∧ later.sendWindow = stream.sendWindow
  removed : ∀ id stream, conn.store.lookup id = some stream → stream.resetCode.isSome = true →
    next.store.lookup id = none

variable {conn next : Connection} {plain : Plain} {id : StreamId} {stream : Stream}

/-- A stream that was not reset is there after a flush. -/
theorem Models.exists_lookup_flush (models : conn.Models plain) (orderly : plain.Orderly)
    (models' : next.Models plain.flush.1) (found : conn.store.lookup id = some stream)
    (unreset : stream.resetCode = none) :
    ∃ later, next.store.lookup id = some later ∧
      later.unlinked = stream.unlinked.served plain.config.initialWindowSize := by
  have coherent := orderly.coherent (models.streams_of_lookup found)
  apply models.lookup_flush_of_open orderly models' found
  rw [← coherent.coded, show stream.unlinked.resetCode = none from unreset]
  rfl

/-- Who is chosen of the streams that have a turn is a matter of what the turn leaves. -/
theorem Models.filter_turns (models : conn.Models plain) {keep : StreamId → Bool}
    {choose : Stream → Bool}
    (same : ∀ id stream, conn.store.lookup id = some stream → stream.resetCode = none →
      keep id = choose stream.unlinked) :
    (conn.turns (plain.lines.get .send)).filter keep =
      plain.select .send fun stream => stream.resetCode.isNone && choose stream := by
  rw [turns, Plain.select, List.filter_filter]
  apply List.filter_congr
  intro id listed
  rw [models.streams_eq]
  cases found : conn.store.lookup id with
  | none => simp
  | some stream =>
    rw [Option.map_some, Option.any_some, Option.any_some,
      show stream.unlinked.resetCode = stream.resetCode from rfl]
    cases code : stream.resetCode with
    | some code => simp
    | none => rw [same id stream found code, Bool.and_comm]

/-- A flush of a connection writes what the credit of its streams covers. -/
theorem Models.writes (models : conn.Models plain) (orderly : plain.Orderly) :
    ∃ next events, conn.flush = .ok (next, events) ∧
      conn.Writes (plain.lines.get .send) next events := by
  obtain ⟨next, flushed, models'⟩ := models.flush
  have sound := models.sound
  have waits (id : StreamId) (stream : Stream) (found : conn.store.lookup id = some stream) :
      stream.queued.send = true ↔ id ∈ plain.lines.get .send :=
    sound.flagged (models.streams_of_lookup found) .send
  -- After the flush a stream that had a turn has the payload that the turn leaves.
  have spent (id : StreamId) (stream : Stream) (found : conn.store.lookup id = some stream)
      (unreset : stream.resetCode = none) :
      next.spent id = stream.unlinked.payloadAfterFlush.1.isEmpty := by
    obtain ⟨later, left, same⟩ := models.exists_lookup_flush orderly models' found unreset
    have payload := stream.unlinked.payload_served plain.config.initialWindowSize
    rw [← same] at payload
    rw [Connection.spent, left, Option.any_some, ← payload]
    rfl
  have finished : (conn.turns (plain.lines.get .send)).filter next.spent = plain.finished :=
    models.filter_turns spent
  have waiting : (conn.turns (plain.lines.get .send)).filter (!next.spent ·) = plain.waiting := by
    apply models.filter_turns
    intro id stream found unreset
    rw [spent id stream found unreset]
  refine ⟨next, _, flushed, ?_, ?_, ?_, ?_, ?_, ?_⟩
  · intro id turn
    obtain ⟨listed, unreset⟩ := List.mem_filter.1 turn
    cases found : conn.store.lookup id with
    | none =>
      rw [found] at unreset
      cases unreset
    | some stream =>
      rw [found, Option.any_some, Option.isNone_iff_eq_none] at unreset
      obtain ⟨later, left, same⟩ := models.exists_lookup_flush orderly models' found unreset
      have queued : stream.unlinked.queued.send = true := (waits id stream found).2 listed
      have turned := Stream.takesTurn_served plain.config.initialWindowSize queued unreset
      rw [← same] at turned
      exact ⟨stream, later, rfl, left, turned.written, turned.ended, turned.blocked⟩
  · rw [finished]
    simpa using orderly.flush_isOf sound .dispatched .send
  · rw [waiting]
    simpa using orderly.flush_isOf sound .queued .send
  · rw [waiting, ← sound.lines_flush.1]
    exact models'.tracks.owns .send
  · intro id stream found unlisted unreset
    obtain ⟨later, left, same⟩ := models.exists_lookup_flush orderly models' found unreset
    have idle : stream.unlinked.queued.send = false := by
      rw [← Bool.not_eq_true]
      exact fun queued => unlisted ((waits id stream found).1 queued)
    obtain ⟨data, credit⟩ :=
      stream.unlinked.payload_served_of_idle plain.config.initialWindowSize idle
    rw [← same] at data credit
    exact ⟨later, left, data, credit⟩
  · intro id stream found reset
    have closed : stream.unlinked.isClosed = true :=
      (orderly.coherent (models.streams_of_lookup found)).coded.symm.trans reset
    have left := models.lookup_flush orderly models' found
    rw [Stream.after?, closed, if_pos rfl] at left
    exact Option.map_eq_none_iff.1 left

/-- In every state that calls can reach, a flush gives each stream that waits to send and was not
reset one turn, in the order of the queue. -/
theorem Fresh.writes_of_run (fresh : conn.Fresh) (calls : List Call) :
    ∃ after events, conn.run calls = .ok (after, events) ∧
      ∃ line keys, after.store.Names line keys ∧
        after.queues.send.Owns .send after.store keys ∧
        ∃ next more, after.flush = .ok (next, more) ∧ after.Writes line next more := by
  have models := fresh.models_fresh
  have orderly := Plain.orderly_fresh conn.config
  obtain ⟨after, ran, models'⟩ := models.run calls
  obtain ⟨keys, names, owns⟩ := models'.tracks.owns .send
  exact ⟨after, _, ran, _, keys, names, owns, models'.writes (models.orderly_run orderly calls)⟩

/-- With a window of ten bytes, the stream of id 1 has one chunk too many, that of id 3 just fits,
that of id 5 is reset while it waits, and that of id 7 is blocked by its second chunk, behind which
an empty one waits. -/
def fitsAndOverruns : List Call :=
  [.accept (.ofRaw 1), .accept (.ofRaw 3), .accept (.ofRaw 5), .accept (.ofRaw 7),
    .send (.ofRaw 7) (.filled 4 0), .send (.ofRaw 7) (.filled 7 1), .send (.ofRaw 7) (.filled 0 2),
    .send (.ofRaw 5) (.filled 1 0), .send (.ofRaw 1) (.filled 9 0), .send (.ofRaw 1) (.filled 2 1),
    .send (.ofRaw 3) (.filled 6 0), .send (.ofRaw 3) (.filled 4 1), .reset (.ofRaw 5) 8]

theorem writes_of_run_fitsAndOverruns :
    Fresh { config := { initialWindowSize := 10 } } ∧
      ∃ after events,
        run { config := { initialWindowSize := 10 } } fitsAndOverruns = .ok (after, events) ∧
        ∃ line keys, after.store.Names line keys ∧
          after.queues.send.Owns .send after.store keys ∧
          ∃ next more, after.flush = .ok (next, more) ∧ after.Writes line next more :=
  ⟨.mk _ .empty, Fresh.writes_of_run (.mk _ .empty) fitsAndOverruns⟩

end Connection

end StreamMux
