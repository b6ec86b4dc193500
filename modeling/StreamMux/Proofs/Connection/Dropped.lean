import StreamMux.Proofs.Connection.Tally

/-!
# Streams that a flush drops from its queues

A flush begins with two filters, which take the streams that were reset out of the queue for sending
and those that are closed out of the queue for window updates (`Connection.Drops`). For each stream
of the first kind there is one event. For those of the second kind there is none, so that the events
of a run add up to the queue for window updates only together with the streams that were dropped
from it (`Connection.Fresh.dropped_of_run`).
-/

namespace StreamMux

namespace Event

variable {events more : List Event} {before middle after dropped dropped' : Nat}

/-- The queue for window updates has `before` streams at first and `after` streams in the end.
Of those that left it, `dropped` are in no event. -/
structure Told (events : List Event) (before dropped after : Nat) : Prop where
  balance : events.countP (isOf .queued .windowUpdate) + before =
    events.countP (isOf .dispatched .windowUpdate) + dropped + after
  unfiltered : events.countP (isOf .filtered .windowUpdate) = 0

theorem Told.append (told : Told events before dropped middle)
    (told' : Told more middle dropped' after) :
    Told (events ++ more) before (dropped + dropped') after := by
  obtain ⟨balance, unfiltered⟩ := told
  obtain ⟨balance', unfiltered'⟩ := told'
  constructor
  · rw [List.countP_append, List.countP_append]
    omega
  · rw [List.countP_append, unfiltered, unfiltered']

/-- Events of other queues tell nothing. -/
theorem told_of_outside (outside : ∀ event ∈ events, event.within .windowUpdate = false)
    (line : Nat) : Told events line 0 line := by
  have none (kind : EventKind) : events.countP (isOf kind .windowUpdate) = 0 := by
    rw [List.countP_eq_zero]
    intro event member holds
    exact Bool.false_ne_true ((outside event member).symm.trans (within_of_isOf event holds))
  constructor
  · rw [none, none]
  · exact none .filtered

end Event

namespace Connection

namespace Plain

variable {plain : Plain} {id : StreamId} {kind : QueueKind}

def dropped (plain : Plain) : Call → List StreamId
  | .flush => plain.select .windowUpdate Stream.isClosed
  | _ => []

/-- A queue is made up of the streams that are chosen and those that are not. -/
theorem Sound.length_select (sound : plain.Sound) (kind : QueueKind) (choose : Stream → Bool) :
    (plain.select kind choose).length + (plain.select kind (!choose ·)).length =
      (plain.lines.get kind).length := by
  have others : (plain.lines.get kind).filter (fun id => !(plain.streams id).any choose) =
      plain.select kind (!choose ·) :=
    sound.filter_line fun k stream found _ => by rw [found, Option.any_some]
  rw [← others, select]
  simpa [List.countP_eq_length_filter] using
    (List.length_eq_countP_add_countP fun id => (plain.streams id).any choose).symm

/-- What the events of a call tell of the queue for window updates. -/
theorem Orderly.told_step (orderly : plain.Orderly) (sound : plain.Sound) (call : Call) :
    Event.Told (plain.step call).2 (plain.lines.get .windowUpdate).length
      (plain.dropped call).length ((plain.step call).1.lines.get .windowUpdate).length := by
  let line := plain.lines.get .windowUpdate
  let tells (result : Plain × List Event) : Prop :=
    Event.Told result.2 line.length 0 (result.1.lines.get .windowUpdate).length
  have quiet : Event.Told [] line.length 0 line.length := Event.told_of_outside (by simp) _
  cases call with
  | accept id =>
    show tells (plain.accept id).2
    unfold Plain.accept
    split
    · exact quiet
    · split
      · exact quiet
      · exact Event.told_of_outside (by simp) _
  | send id chunk =>
    refine serve_holds tells quiet fun stream => ?_
    split
    · exact quiet
    · dsimp only
      split
      · exact quiet
      · exact Event.told_of_outside (by simp) _
  | reset id code =>
    refine serve_holds tells quiet fun stream => ?_
    split
    · exact quiet
    · dsimp only
      split
      · exact quiet
      · exact Event.told_of_outside (by simp) _
  | consume id count =>
    refine serve_holds tells quiet fun stream => ?_
    dsimp only
    split
    · exact quiet
    · dsimp only [tells]
      rw [lines_enqueue, if_pos rfl]
      constructor
      · simp [line, Nat.add_comm]
        rfl
      · simp
  | grant id increment => exact serve_holds tells quiet fun stream => quiet
  | flush =>
    have reported (kind : EventKind) :=
      congrArg List.length (orderly.flush_isOf sound kind .windowUpdate)
    have parts := sound.length_select .windowUpdate Stream.isClosed
    show Event.Told plain.flush.2 _ (plain.select .windowUpdate Stream.isClosed).length
      (plain.flush.1.lines.get .windowUpdate).length
    rw [sound.lines_flush.2.2]
    constructor
    · rw [List.countP_eq_length_filter, List.countP_eq_length_filter, reported, reported]
      simp
      omega
    · rw [List.countP_eq_length_filter, reported]
      simp
  | census => exact quiet

/-- The streams of a queue that are not chosen. -/
theorem Sound.filter_not_mem_select (sound : plain.Sound) (kind : QueueKind)
    (choose : Stream → Bool) :
    (plain.lines.get kind).filter (· ∉ plain.select kind choose) =
      plain.select kind (!choose ·) := by
  apply sound.filter_line
  intro k stream found queued
  simp [sound.mem_select, found, queued]

/-- There is an event for each stream that was reset while it waited to send, and one only. -/
theorem Orderly.perm_cancelled (orderly : plain.Orderly) (sound : plain.Sound) :
    plain.cancelled.Perm (plain.select .send (·.resetCode.isSome)) := by
  rw [List.perm_ext_iff_of_nodup orderly.distinct (sound.nodup_select ..)]
  intro k
  rw [orderly.cancelled, sound.mem_select]
  cases found : plain.streams k with
  | none => rfl
  | some stream =>
    rw [Option.any_some, Option.any_some, Stream.wasCancelled, (orderly.coherent found).coded,
      Bool.and_comm]
    rfl

end Plain

/-- The two filters of a flush drop the streams of `sends` from the queue for sending and those of
`updates` from the queue for window updates, and keep the others in their order. -/
def Drops (conn : Connection) (sends updates : List StreamId) : Prop :=
  ∃ first filtered second sending updating,
    conn.filterSends = .ok (first, filtered) ∧ first.filterWindowUpdates = .ok second ∧
    (conn.HasLine .send sending ∧ sends.Sublist sending ∧
      second.HasLine .send (sending.filter (· ∉ sends))) ∧
    conn.HasLine .windowUpdate updating ∧ updates.Sublist updating ∧
      second.HasLine .windowUpdate (updating.filter (· ∉ updates))

/-- The flushes among the calls drop these streams from the queue for window updates, one flush
after the other. -/
inductive DroppedBy : Connection → List Call → List StreamId → Prop where
  | none (conn : Connection) : DroppedBy conn [] []
  | flush {conn next : Connection} {events : List Event} {sends updates more : List StreamId}
    {calls : List Call} (drops : conn.Drops sends updates)
    (flushed : conn.flush = .ok (next, events)) (later : DroppedBy next calls more) :
    DroppedBy conn (.flush :: calls) (updates ++ more)
  | other {conn next : Connection} {call : Call} {answer : Answer} {events : List Event}
    {more : List StreamId} {calls : List Call} (calm : call ≠ .flush)
    (stepped : conn.step call = .ok (answer, next, events)) (later : DroppedBy next calls more) :
    DroppedBy conn (call :: calls) more

variable {conn : Connection} {plain : Plain}

/-- The filters drop the streams that were reset and those that are closed. -/
theorem Models.drops (models : conn.Models plain) :
    conn.Drops (plain.select .send (·.resetCode.isSome))
      (plain.select .windowUpdate Stream.isClosed) := by
  have sound := models.sound
  obtain ⟨first, filtered, models₁⟩ := models.filterSends
  obtain ⟨second, passed, models₂⟩ := models₁.filterWindowUpdates
  have kept : plain.filterSends.1.filterWindowUpdates.lines.get .send =
      (plain.lines.get .send).filter (· ∉ plain.select .send (·.resetCode.isSome)) := by
    rw [sound.filter_not_mem_select]
    exact sound.line_prepared.trans (by simp)
  have kept' : plain.filterSends.1.filterWindowUpdates.lines.get .windowUpdate =
      (plain.lines.get .windowUpdate).filter
        (· ∉ plain.select .windowUpdate Stream.isClosed) := by
    rw [sound.filter_not_mem_select]
    exact sound.line_windowUpdate
  exact ⟨first, _, second, _, _, filtered, passed,
    ⟨models.hasLine .send, List.filter_sublist, kept ▸ models₂.hasLine .send⟩,
    models.hasLine .windowUpdate, List.filter_sublist, kept' ▸ models₂.hasLine .windowUpdate⟩

/-- What the events of a run tell of the queue for window updates. -/
theorem Models.told_run (models : conn.Models plain) (orderly : plain.Orderly)
    (calls : List Call) :
    ∃ silent, conn.DroppedBy calls silent ∧
      Event.Told (plain.run calls).2 (plain.lines.get .windowUpdate).length silent.length
        ((plain.run calls).1.lines.get .windowUpdate).length := by
  induction calls generalizing conn plain with
  | nil => exact ⟨[], .none conn, Event.told_of_outside (by simp [Plain.run]) _⟩
  | cons call rest ih =>
    have orderly' := orderly.step models.sound call
    have told := orderly.told_step models.sound call
    by_cases flushes : call = .flush
    · subst flushes
      obtain ⟨next, flushed, models'⟩ := models.flush
      obtain ⟨silent, later, told'⟩ := ih models' orderly'
      refine ⟨_ ++ silent, .flush models.drops flushed later, ?_⟩
      rw [List.length_append]
      exact told.append told'
    · obtain ⟨answer, next, stepped, models'⟩ := models.step call
      obtain ⟨silent, later, told'⟩ := ih models' orderly'
      have nothing : plain.dropped call = [] := by
        cases call with
        | flush => exact absurd rfl flushes
        | _ => rfl
      rw [nothing] at told
      have whole := told.append told'
      rw [List.length_nil, Nat.zero_add] at whole
      exact ⟨silent, .other flushes stepped later, whole⟩

/-- What a flush that answers `events` reports of the streams that its filters drop. -/
structure Reports (conn : Connection) (events : List Event) (sends updates : List StreamId) :
    Prop where
  drops : conn.Drops sends updates
  reset : ∀ id, id ∈ sends ↔
    (conn.store.lookup id).any (fun one => one.queued.send && one.resetCode.isSome) = true
  closed : ∀ id, id ∈ updates ↔
    (conn.store.lookup id).any (fun one => one.queued.windowUpdate && one.isClosed) = true
  once : sends.Nodup ∧ (events.filter (Event.isOf .filtered .send)).Perm
    (sends.map (.filtered .send "reset_before_write"))
  never : events.filter (Event.isOf .filtered .windowUpdate) = []

/-- Whoever waits in a queue is seen in the streams of the connection. -/
theorem Models.mem_select (models : conn.Models plain) {choose : Stream → Bool}
    (blind : ∀ stream : Stream, choose stream.unlinked = choose stream) (kind : QueueKind)
    (id : StreamId) :
    id ∈ plain.select kind choose ↔ (conn.store.lookup id).any
      (fun stream => stream.queued.get kind && choose stream) = true := by
  rw [models.sound.mem_select, models.streams_eq, Option.any_map]
  simp only [blind]
  rfl

theorem Models.reports (models : conn.Models plain) (orderly : plain.Orderly) :
    conn.Reports plain.flush.2 (plain.select .send (·.resetCode.isSome))
      (plain.select .windowUpdate Stream.isClosed) where
  drops := models.drops
  reset := models.mem_select (fun _ => rfl) .send
  closed := models.mem_select (fun _ => rfl) .windowUpdate
  once := by
    refine ⟨models.sound.nodup_select .., ?_⟩
    rw [orderly.flush_isOf models.sound]
    simpa using (orderly.perm_cancelled models.sound).map _
  never := by simpa using orderly.flush_isOf models.sound .filtered .windowUpdate

/-- After any calls, the streams that were queued for window updates are those whose windows were
advertised, those that still wait, and those that flushes dropped without an event. The next flush
has one event for each stream that it drops from the queue for sending, and none for those that it
drops from the queue for window updates. -/
theorem Fresh.dropped_of_run (fresh : conn.Fresh) (calls : List Call) :
    ∃ after events, conn.run calls = .ok (after, events) ∧
      (∃ silent line, conn.DroppedBy calls silent ∧ after.HasLine .windowUpdate line ∧
        events.countP (Event.isOf .queued .windowUpdate) =
          events.countP (Event.isOf .dispatched .windowUpdate) +
            events.countP (Event.isOf .filtered .windowUpdate) + silent.length + line.length) ∧
      ∃ next more sends updates, after.flush = .ok (next, more) ∧
        after.Reports more sends updates := by
  have models := fresh.models_fresh
  have orderly := Plain.orderly_fresh conn.config
  obtain ⟨after, ran, models'⟩ := models.run calls
  obtain ⟨silent, droppedBy, balance, unfiltered⟩ := models.told_run orderly calls
  obtain ⟨next, flushed, -⟩ := models'.flush
  refine ⟨after, _, ran, ⟨silent, _, droppedBy, models'.hasLine .windowUpdate, ?_⟩, next, _, _, _,
    flushed, models'.reports (models.orderly_run orderly calls)⟩
  rw [unfiltered, Nat.add_zero]
  exact balance

/-- Of two windows that are used up, one is advertised; the other stream is reset before. A third
stream is reset while it waits for its window and to send. -/
def resetAfterReads : List Call :=
  [.accept (.ofRaw 1), .accept (.ofRaw 3), .accept (.ofRaw 5), .consume (.ofRaw 1) 10,
    .consume (.ofRaw 5) 8, .reset (.ofRaw 1) 8, .flush, .consume (.ofRaw 3) 7,
    .send (.ofRaw 3) (.filled 4 0), .reset (.ofRaw 3) 8]

theorem dropped_of_run_resetAfterReads :
    Fresh { config := { initialWindowSize := 10 } } ∧
      ∃ after events,
        run { config := { initialWindowSize := 10 } } resetAfterReads = .ok (after, events) ∧
        (∃ silent line, DroppedBy { config := { initialWindowSize := 10 } } resetAfterReads silent ∧
          after.HasLine .windowUpdate line ∧
          events.countP (Event.isOf .queued .windowUpdate) =
            events.countP (Event.isOf .dispatched .windowUpdate) +
              events.countP (Event.isOf .filtered .windowUpdate) + silent.length + line.length) ∧
        ∃ next more sends updates, after.flush = .ok (next, more) ∧
          after.Reports more sends updates :=
  ⟨.mk _ .empty, Fresh.dropped_of_run (.mk _ .empty) resetAfterReads⟩

/-- A stream is read from until its window is used up, and then reset. The flush drops it from the
queue for window updates without an event, so that it was queued there and is nowhere any more. -/
theorem unreported_consumedThenReset :
    ∃ after events next more,
      run { config := .defaults }
        [.accept (.ofRaw 1), .consume (.ofRaw 1) 65535, .reset (.ofRaw 1) 8] =
          .ok (after, events) ∧
      after.flush = .ok (next, more) ∧ after.Drops [] [.ofRaw 1] ∧
      more.filter (Event.isOf .filtered .windowUpdate) = [] ∧
      (events ++ more).countP (Event.isOf .queued .windowUpdate) = 1 ∧
      (events ++ more).countP (Event.isOf .dispatched .windowUpdate) = 0 ∧
      (events ++ more).countP (Event.isOf .filtered .windowUpdate) = 0 ∧
      next.HasLine .windowUpdate [] := by
  have fresh : Fresh { config := .defaults } := .mk .defaults .empty
  obtain ⟨after, ran, models⟩ := fresh.models_fresh.run
    [.accept (.ofRaw 1), .consume (.ofRaw 1) 65535, .reset (.ofRaw 1) 8]
  obtain ⟨next, flushed, models'⟩ := models.flush
  exact ⟨after, _, next, _, ran, flushed, models.drops, by decide, by decide, by decide, by decide,
    models'.hasLine .windowUpdate⟩

end Connection

end StreamMux
