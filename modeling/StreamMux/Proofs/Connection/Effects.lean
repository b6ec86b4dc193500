import StreamMux.Proofs.Connection.Flags

/-!
# What each call does to one stream

A call changes the stream that it names and no other. A flush serves every stream alike, by what
the stream itself records, and then takes out those that were reset (`Plain.Sound.streams_flush`).
Of the other streams, the place in the lists included, nothing is seen in it.
-/

namespace StreamMux

namespace Stream

variable {stream : Stream} {kind : QueueKind}

/-- Recording what is recorded already changes nothing. -/
theorem setQueued_get (stream : Stream) (kind : QueueKind) :
    stream.setQueued kind (stream.queued.get kind) = stream := by
  rw [setQueued, PerQueue.set_get_self]

theorem setQueued_of_get (kind : QueueKind) {queued : Bool}
    (same : stream.queued.get kind = queued) : stream.setQueued kind queued = stream := by
  rw [← same, setQueued_get]

def afterSend (chunk : Chunk) (stream : Stream) : Stream :=
  if stream.isClosed then stream
  else { stream.setQueued .send true with pendingData := stream.pendingData ++ [chunk] }

/-- A stream that is not closed takes the chunk, and waits to send it. -/
theorem afterSend_of_open (stillOpen : stream.isClosed = false) (chunk : Chunk) :
    stream.afterSend chunk =
      { stream.setQueued .send true with pendingData := stream.pendingData ++ [chunk] } := by
  rw [afterSend, stillOpen, if_neg Bool.false_ne_true]

@[simp] theorem state_afterSend (chunk : Chunk) (stream : Stream) :
    (stream.afterSend chunk).state = stream.state := by
  unfold afterSend
  split <;> rfl

def afterReset (code : UInt32) (stream : Stream) : Stream :=
  if stream.isClosed then stream
  else
    { stream.setQueued .reset true with
      state := .closed
      resetCode := some code
      pendingData := [] }

/-- The stream after `count` bytes were read from it, where `initial` is the full window. -/
def afterConsume (initial count : Int32) (stream : Stream) : Stream :=
  let window := stream.recvWindow - count
  let read := { stream with recvWindow := window }
  if initial / 2 < window || stream.isClosed then read else read.setQueued .windowUpdate true

/-- Reading from a stream changes its receive window, and puts it at most in the queue in which
windows wait to be advertised. -/
theorem afterConsume_eq (initial count : Int32) (stream : Stream) :
    stream.afterConsume initial count =
      { stream with
        recvWindow := stream.recvWindow - count
        queued := { stream.queued with
          windowUpdate := stream.queued.windowUpdate ||
            !(initial / 2 < stream.recvWindow - count || stream.isClosed) } } := by
  unfold afterConsume
  dsimp only
  split
  · rename_i kept
    rw [kept, Bool.not_true, Bool.or_false]
  · rename_i short
    rw [Bool.not_eq_true] at short
    rw [short, Bool.not_false, Bool.or_true]
    rfl

def afterGrant (increment : Int32) (stream : Stream) : Stream :=
  { stream with sendWindow := grantWindow stream.sendWindow increment }

def evicted (kind : QueueKind) (drop : Stream → Bool) (stream : Stream) : Stream :=
  if drop stream then stream.setQueued kind false else stream

def advertised (initial : Int32) (stream : Stream) : Stream :=
  if stream.queued.windowUpdate then
    { stream.setQueued .windowUpdate false with recvWindow := initial }
  else stream

/-- The stream after its turn in the send queue, if it had one. It waits again for what is left. -/
def turned (stream : Stream) : Stream :=
  if stream.queued.send then
    stream.transmitted.setQueued .send (!stream.transmitted.pendingData.isEmpty)
  else stream

/-- The stream as a flush leaves it before payload is written. -/
def prepared (initial : Int32) (stream : Stream) : Stream :=
  (((stream.evicted .send (·.resetCode.isSome)).evicted .windowUpdate isClosed).setQueued
    .reset false).advertised initial

/-- The stream as a flush leaves it before streams are removed. -/
def served (initial : Int32) (stream : Stream) : Stream := (stream.prepared initial).turned

/-- Before payload is written, a flush changes flags and the receive window. The streams that still
wait to send were not reset. -/
theorem prepared_eq (initial : Int32) (stream : Stream) :
    stream.prepared initial =
      { stream with
        recvWindow :=
          if stream.queued.windowUpdate && !stream.isClosed then initial else stream.recvWindow
        queued := ⟨stream.queued.send && stream.resetCode.isNone, false, false⟩ } := by
  have leaves : stream.evicted .send (·.resetCode.isSome) =
      { stream with queued := { stream.queued with
        send := stream.queued.send && stream.resetCode.isNone } } := by
    obtain ⟨state, credit, window, data, code, queued, links⟩ := stream
    cases code with
    | none => simp [evicted]
    | some code => simp [evicted, setQueued, PerQueue.set]
  have forgets (stream : Stream) : stream.evicted .windowUpdate isClosed =
      { stream with queued := { stream.queued with
        windowUpdate := stream.queued.windowUpdate && !stream.isClosed } } := by
    unfold evicted
    cases stream.isClosed with
    | true => simp [setQueued, PerQueue.set]
    | false => simp
  have fills (stream : Stream) : stream.advertised initial =
      { stream with
        recvWindow := if stream.queued.windowUpdate then initial else stream.recvWindow
        queued := { stream.queued with windowUpdate := false } } := by
    obtain ⟨state, credit, window, data, code, ⟨send, reset, updates⟩, links⟩ := stream
    cases updates <;> rfl
  rw [prepared, leaves, forgets, fills]
  rfl

/-- The payload and the credit that a flush leaves. A stream has a turn if it waits to send and was
not reset. -/
def payloadAfterFlush (stream : Stream) : List Chunk × Int32 :=
  if stream.queued.send && stream.resetCode.isNone then
    transmit stream.pendingData stream.sendWindow
  else (stream.pendingData, stream.sendWindow)

theorem payload_served (initial : Int32) (stream : Stream) :
    ((stream.served initial).pendingData, (stream.served initial).sendWindow) =
      stream.payloadAfterFlush := by
  rw [served, prepared_eq, turned, payloadAfterFlush]
  dsimp only
  split <;> rfl

end Stream

def Call.target? : Call → Option StreamId
  | .accept id | .send id _ | .reset id _ | .consume id _ | .grant id _ => some id
  | .flush | .census => none

namespace Connection.Plain

variable {plain : Plain} {id k : StreamId} {stream : Stream} {kind : QueueKind}

@[simp] theorem streams_look (plain : Plain) (id : StreamId) :
    (plain.look id).streams = plain.streams := rfl

/-- Putting back the stream that is there changes nothing. -/
theorem streams_set_self (found : plain.streams id = some stream) :
    (plain.set id stream).streams = plain.streams := by
  funext k
  rw [streams_set]
  split
  · rename_i same
    rw [same, found]
  · rfl

/-- A changed stream that joins a queue is changed and flagged. -/
theorem streams_set_enqueue (plain : Plain) (id : StreamId) (stream : Stream) (kind : QueueKind) :
    ((plain.set id stream).enqueue kind id).streams =
      (plain.set id (stream.setQueued kind true)).streams := by
  funext k
  rw [streams_enqueue, streams_set, streams_set]
  split <;> rfl

/-- A call that serves one stream changes no other. -/
theorem streams_serve {action : Plain → Stream → Plain × List Event} {change : Stream → Stream}
    (acts : ∀ stream, plain.streams id = some stream →
      (action (plain.look id) stream).1.streams = (plain.set id (change stream)).streams)
    (k : StreamId) :
    (plain.serve id action).1.streams k =
      if k = id then (plain.streams k).map change else plain.streams k := by
  cases found : plain.streams id with
  | none =>
    simp only [serve, found, streams_look]
    split
    · rename_i same
      rw [same, found, Option.map_none]
    · rfl
  | some stream =>
    simp only [serve, found]
    rw [acts stream found, streams_set]
    split
    · rename_i same
      rw [same, found, Option.map_some]
    · rfl

theorem streams_send (plain : Plain) (id : StreamId) (chunk : Chunk) (k : StreamId) :
    (plain.send id chunk).1.streams k =
      if k = id then (plain.streams k).map (Stream.afterSend chunk) else plain.streams k := by
  apply streams_serve
  intro stream found
  unfold Stream.afterSend
  split
  · exact (streams_set_self found).symm
  · split
    · rename_i queued
      rw [Stream.setQueued_of_get .send queued]
      rfl
    · exact streams_set_enqueue ..

theorem streams_reset (plain : Plain) (id : StreamId) (code : UInt32) (k : StreamId) :
    (plain.reset id code).1.streams k =
      if k = id then (plain.streams k).map (Stream.afterReset code) else plain.streams k := by
  apply streams_serve
  intro stream found
  unfold Stream.afterReset
  split
  · exact (streams_set_self found).symm
  · dsimp only
    cases queued : stream.queued.reset with
    | true =>
      rw [if_pos rfl, Stream.setQueued_of_get .reset queued]
      rfl
    | false =>
      rw [if_neg Bool.false_ne_true]
      exact streams_set_enqueue ..

theorem streams_consume (plain : Plain) (id : StreamId) (count : Int32) (k : StreamId) :
    (plain.consume id count).1.streams k =
      if k = id then
        (plain.streams k).map (Stream.afterConsume plain.config.initialWindowSize count)
      else plain.streams k := by
  apply streams_serve
  intro stream found
  have config : (plain.look id).config = plain.config := rfl
  simp only [Stream.afterConsume, config_set, config]
  cases queued : stream.queued.windowUpdate with
  | true =>
    -- it waits already, so that joining again would not show
    let read : Stream := { stream with recvWindow := stream.recvWindow - count }
    have waits : read.setQueued .windowUpdate true = read :=
      Stream.setQueued_of_get .windowUpdate queued
    rw [Bool.or_true, Bool.true_or, if_pos rfl, waits, ite_self]
    rfl
  | false =>
    rw [Bool.or_false]
    split
    · rfl
    · exact streams_set_enqueue ..

theorem streams_grant (plain : Plain) (id : StreamId) (increment : Int32) (k : StreamId) :
    (plain.grant id increment).1.streams k =
      if k = id then (plain.streams k).map (Stream.afterGrant increment) else plain.streams k := by
  apply streams_serve
  intro stream found
  rfl

/-- A stream comes when it is accepted, and not otherwise. -/
theorem streams_accept (plain : Plain) (id k : StreamId) :
    (plain.accept id).2.1.streams k =
      if k = id ∧ (plain.accept id).1 = true then some plain.openedStream else plain.streams k := by
  unfold accept
  split
  · simp
  · split
    · simp
    · simp [streams_set]

/-- Only an id without a stream is accepted. -/
theorem streams_of_accept (yes : (plain.accept id).1 = true) : plain.streams id = none := by
  unfold accept at yes
  split at yes
  · cases yes
  · split at yes
    · cases yes
    · rename_i absent
      simpa using absent

theorem Sound.streams_evict (sound : plain.Sound) (kind : QueueKind) (drop : Stream → Bool)
    (k : StreamId) :
    (plain.evict kind drop).streams k = (plain.streams k).map (Stream.evicted kind drop) := by
  rw [Plain.evict, streams_setLine, streams_changeAll]
  cases found : plain.streams k with
  | none => simp
  | some stream =>
    have flagged := sound.flagged found kind
    simp only [List.mem_filter, found, Option.any_some, Option.map_some, Stream.evicted]
    by_cases listed : k ∈ plain.lines.get kind
    · simp only [listed, true_and]
      split <;> rfl
    · have unqueued : stream.queued.get kind = false := by simpa [listed] using flagged
      rw [Stream.setQueued_of_get kind unqueued]
      simp [listed]

theorem Sound.streams_emptyLine (sound : plain.Sound) (kind : QueueKind)
    (change : Stream → Stream) (k : StreamId) :
    (plain.emptyLine kind change).streams k =
      (plain.streams k).map fun stream =>
        if stream.queued.get kind then change stream else stream := by
  rw [Plain.emptyLine, streams_setLine, streams_changeAll]
  cases found : plain.streams k with
  | none => simp
  | some stream =>
    simp only [Option.map_some, ← sound.flagged found kind]
    split <;> rfl

/-- Streams that join a queue are flagged. -/
theorem streams_enqueueAll (plain : Plain) (ids : List StreamId) (kind : QueueKind)
    (k : StreamId) :
    (ids.foldl (·.enqueue kind) plain).streams k =
      if k ∈ ids then (plain.streams k).map (·.setQueued kind true) else plain.streams k := by
  induction ids generalizing plain with
  | nil => simp
  | cons id rest ih =>
    rw [List.foldl_cons, ih, streams_enqueue]
    by_cases same : k = id
    · subst same
      have twice (stream : Stream) :
          (stream.setQueued kind true).setQueued kind true = stream.setQueued kind true :=
        Stream.setQueued_of_get kind (by rw [Stream.queued_get_setQueued, if_pos rfl])
      simp [Function.comp_def, twice]
    · simp [same]

theorem Sound.streams_writeResets (sound : plain.Sound) (k : StreamId) :
    plain.writeResets.1.streams k = (plain.streams k).map (·.setQueued .reset false) := by
  rw [Plain.writeResets, dispatch, sound.streams_emptyLine]
  congr 1
  funext stream
  split
  · rfl
  · rename_i unqueued
    exact (Stream.setQueued_of_get .reset (Bool.not_eq_true _ ▸ unqueued)).symm

theorem Sound.streams_writeWindowUpdates (sound : plain.Sound) (k : StreamId) :
    plain.writeWindowUpdates.1.streams k =
      (plain.streams k).map (Stream.advertised plain.config.initialWindowSize) :=
  sound.streams_emptyLine .windowUpdate _ k

theorem Sound.streams_writeSends (sound : plain.Sound) (k : StreamId) :
    plain.writeSends.1.streams k = (plain.streams k).map Stream.turned := by
  let written := plain.emptyLine .send Stream.transmitted
  have after : plain.writeSends.1.streams k =
      if k ∈ (plain.lines.get .send).filter written.blocked then
        (written.streams k).map (·.setQueued .send true)
      else written.streams k := streams_enqueueAll ..
  have turned : written.streams k = (plain.streams k).map fun stream =>
      if stream.queued.send then stream.transmitted else stream :=
    sound.streams_emptyLine .send Stream.transmitted k
  rw [after]
  cases found : plain.streams k with
  | none => simp [turned, found]
  | some stream =>
    have listed : stream.queued.send = true ↔ k ∈ plain.lines.get .send :=
      sound.flagged found .send
    cases queued : stream.queued.send with
    | false =>
      have outside : k ∉ plain.lines.get .send := by simp [← listed, queued]
      simp [turned, found, outside, Stream.turned, queued]
    | true =>
      have inside : k ∈ plain.lines.get .send := listed.1 queued
      have alone : stream.transmitted.setQueued .send false = stream.transmitted := rfl
      simp only [List.mem_filter, inside, true_and, blocked, turned, found, Stream.turned, queued,
        Option.map_some, Option.any_some, if_true]
      cases stream.transmitted.pendingData.isEmpty with
      | true => simp [alone]
      | false => simp

theorem streams_reclaimOne (plain : Plain) (id k : StreamId) :
    (plain.reclaimOne id).1.streams k =
      if k = id then (plain.streams k).filter Stream.isQueued else plain.streams k := by
  cases found : plain.streams id with
  | none =>
    simp only [reclaimOne, serve, found, streams_look]
    split
    · rename_i same
      rw [same, found]
      rfl
    · rfl
  | some stream =>
    simp only [reclaimOne, serve, found]
    cases queued : stream.isQueued with
    | true =>
      rw [if_pos rfl, streams_look]
      split
      · rename_i same
        rw [same, found, Option.filter_some, if_pos queued]
      · rfl
    | false =>
      rw [if_neg Bool.false_ne_true, streams_erase]
      split
      · rename_i same
        rw [same, found, Option.filter_some, if_neg (by simp [queued])]
      · rfl

/-- The streams that were reset go, unless they are in a queue. -/
theorem streams_reclaim (plain : Plain) (k : StreamId) :
    plain.reclaim.1.streams k =
      if k ∈ plain.closing then (plain.streams k).filter Stream.isQueued else plain.streams k := by
  have whole (ids : List StreamId) (start : Plain) (events : List Event) :
      (ids.foldl reclaimNext (start, events)).1.streams k =
        if k ∈ ids then (start.streams k).filter Stream.isQueued else start.streams k := by
    induction ids generalizing start events with
    | nil => simp
    | cons id rest ih =>
      rw [List.foldl_cons, reclaimNext, ih, streams_reclaimOne]
      by_cases same : k = id
      · subst same
        simp
      · simp [same]
  exact whole plain.closing plain []

/-- What no stream that joins a queue changes, those of a list together do not change. -/
theorem enqueueAll_keeps {β : Type} (view : Plain → β) {kind : QueueKind}
    (keeps : ∀ plain id, view (enqueue plain kind id) = view plain) (plain : Plain)
    (ids : List StreamId) : view (ids.foldl (·.enqueue kind) plain) = view plain := by
  induction ids generalizing plain with
  | nil => rfl
  | cons id rest ih => exact (ih (plain.enqueue kind id)).trans (keeps plain id)

/-- The connection in a flush, when the queue for sending has its turn next. -/
def prepared (plain : Plain) : Plain :=
  plain.filterSends.1.filterWindowUpdates.writeResets.1.writeWindowUpdates.1

/-- The connection in a flush, when everything is written and nothing is removed yet. -/
def written (plain : Plain) : Plain :=
  plain.filterSends.1.filterWindowUpdates.writeResets.1.writeWindowUpdates.1.writeSends.1

theorem flush_eq_reclaim (plain : Plain) : plain.flush.1 = plain.written.reclaim.1 := rfl

/-- A flush writes what concerns the streams and the queues, and nothing else. -/
theorem written_keeps {β : Type} (view : Plain → β)
    (writes : ∀ (plain : Plain) streams lines, view { plain with streams, lines } = view plain)
    (plain : Plain) : view plain.written = view { plain with cancelled := [] } := by
  have empties (plain : Plain) (kind : QueueKind) (change : Stream → Stream) :
      view (plain.emptyLine kind change) = view plain := writes plain _ _
  have evicts (plain : Plain) (kind : QueueKind) (drop : Stream → Bool) :
      view (plain.evict kind drop) = view plain := writes plain _ _
  let filtered := plain.filterSends.1
  let wrote := filtered.filterWindowUpdates.writeResets.1
  calc view plain.written
    _ = view (plain.prepared.emptyLine .send Stream.transmitted) :=
        enqueueAll_keeps view (fun plain id => writes plain _ _) _ _
    _ = view plain.prepared := empties _ _ _
    _ = view wrote := empties wrote _ _
    _ = view filtered.filterWindowUpdates := empties filtered.filterWindowUpdates _ _
    _ = view filtered := evicts filtered _ _
    _ = view { plain with cancelled := [] } := writes { plain with cancelled := [] } _ _

theorem config_written (plain : Plain) : plain.written.config = plain.config :=
  plain.written_keeps Plain.config fun _ _ _ => rfl

theorem closing_written (plain : Plain) : plain.written.closing = plain.closing :=
  plain.written_keeps Plain.closing fun _ _ _ => rfl

theorem cancelled_written (plain : Plain) : plain.written.cancelled = [] :=
  plain.written_keeps Plain.cancelled fun _ _ _ => rfl

theorem openStreams_written (plain : Plain) : plain.written.openStreams = plain.openStreams :=
  plain.written_keeps Plain.openStreams fun _ _ _ => rfl

/-- What holds whether or not there is a stream to serve. -/
theorem serve_holds (holds : Plain × List Event → Prop)
    {action : Plain → Stream → Plain × List Event} (looks : holds (plain.look id, []))
    (acts : ∀ stream, holds (action (plain.look id) stream)) : holds (plain.serve id action) := by
  unfold serve
  split
  · exact looks
  · exact acts _

/-- What neither a lookup nor the action changes, a call that serves one stream does not change. -/
theorem serve_keeps {β : Type} (view : Plain → β)
    {action : Plain → Stream → Plain × List Event} (looks : view (plain.look id) = view plain)
    (acts : ∀ stream, view (action (plain.look id) stream).1 = view plain) :
    view (plain.serve id action).1 = view plain :=
  serve_holds (fun done => view done.1 = view plain) looks acts

/-- What neither a lookup nor the end of a stream changes, the removal of streams leaves alone. -/
theorem reclaimAll_keeps {β : Type} (view : Plain → β)
    (looks : ∀ plain id, view (look plain id) = view plain)
    (ends : ∀ plain id openStreams stats,
      view { erase plain id with openStreams, stats } = view plain)
    (plain : Plain) (ids : List StreamId) (events : List Event) :
    view (ids.foldl reclaimNext (plain, events)).1 = view plain := by
  induction ids generalizing plain events with
  | nil => rfl
  | cons id rest ih =>
    rw [List.foldl_cons, reclaimNext, ih]
    refine serve_keeps view (looks plain id) fun stream => ?_
    split
    · exact looks plain id
    · exact (ends ..).trans (looks plain id)

theorem config_reclaim (plain : Plain) : plain.reclaim.1.config = plain.config :=
  reclaimAll_keeps Plain.config (fun _ _ => rfl) (fun _ _ _ _ => rfl) plain plain.closing []

theorem config_flush (plain : Plain) : plain.flush.1.config = plain.config := by
  rw [flush_eq_reclaim, config_reclaim, config_written]

/-- What is left alone by lookups, by changes of a stream, by queueing it and by noting its reset,
no call changes but those that open and remove streams. -/
theorem step_keeps {β : Type} (view : Plain → β)
    (looks : ∀ plain id, view (look plain id) = view plain)
    (sets : ∀ plain id stream, view (set plain id stream) = view plain)
    (joins : ∀ plain kind id, view (enqueue plain kind id) = view plain)
    (notes : ∀ (plain : Plain) closing cancelled,
      view { plain with closing, cancelled } = view plain)
    (plain : Plain) {call : Call} (opens : ∀ id, call ≠ .accept id) (calm : call ≠ .flush) :
    view (plain.step call).1 = view plain := by
  have changes (id : StreamId) (stream : Stream) :
      view ((plain.look id).set id stream) = view plain := (sets ..).trans (looks ..)
  cases call with
  | accept id => exact absurd rfl (opens id)
  | send id chunk =>
    refine serve_keeps view (looks plain id) fun stream => ?_
    split
    · exact looks plain id
    · dsimp only
      split
      · exact changes ..
      · exact (joins ..).trans (changes ..)
  | reset id code =>
    refine serve_keeps view (looks plain id) fun stream => ?_
    split
    · exact looks plain id
    · dsimp only
      split
      · exact (notes ..).trans (changes ..)
      · exact (joins ..).trans ((notes ..).trans (changes ..))
  | consume id count =>
    refine serve_keeps view (looks plain id) fun stream => ?_
    dsimp only
    split
    · exact changes ..
    · exact (joins ..).trans (changes ..)
  | grant id increment => exact serve_keeps view (looks plain id) fun stream => changes ..
  | flush => exact absurd rfl calm
  | census => rfl

/-- No call changes the settings. -/
theorem config_step (plain : Plain) (call : Call) : (plain.step call).1.config = plain.config := by
  cases call with
  | accept id =>
    simp only [step, accept]
    split
    · rfl
    · split <;> rfl
  | flush => exact config_flush plain
  | _ =>
    exact step_keeps Plain.config (fun _ _ => rfl) (fun _ _ _ => rfl) (fun _ _ _ => rfl)
      (fun _ _ _ => rfl) plain nofun nofun

theorem config_run (plain : Plain) (calls : List Call) :
    (plain.run calls).1.config = plain.config := by
  induction calls generalizing plain with
  | nil => rfl
  | cons call rest ih => exact (ih _).trans (plain.config_step call)

/-- Everything before payload is written leaves flags and lists in agreement. -/
theorem Sound.prepared (sound : plain.Sound) : plain.prepared.Sound := by
  have filtered : plain.filterSends.1.Sound := (sound.evict .send _).of_eq rfl rfl
  have evicted : plain.filterSends.1.filterWindowUpdates.Sound :=
    filtered.evict .windowUpdate Stream.isClosed
  exact evicted.writeResets.writeWindowUpdates

theorem Sound.streams_prepared (sound : plain.Sound) (k : StreamId) :
    plain.prepared.streams k =
      (plain.streams k).map (Stream.prepared plain.config.initialWindowSize) := by
  have filtered : plain.filterSends.1.Sound := (sound.evict .send _).of_eq rfl rfl
  have evicted : plain.filterSends.1.filterWindowUpdates.Sound :=
    filtered.evict .windowUpdate Stream.isClosed
  have first : plain.filterSends.1.streams k = _ := sound.streams_evict .send _ k
  have second : plain.filterSends.1.filterWindowUpdates.streams k = _ :=
    filtered.streams_evict .windowUpdate _ k
  calc plain.prepared.streams k
    _ = (plain.filterSends.1.filterWindowUpdates.writeResets.1.streams k).map
          (Stream.advertised plain.config.initialWindowSize) :=
        evicted.writeResets.streams_writeWindowUpdates k
    _ = (plain.streams k).map (Stream.prepared plain.config.initialWindowSize) := by
        rw [evicted.streams_writeResets, second, first, Option.map_map, Option.map_map,
          Option.map_map]
        rfl

/-- Every stream is served by what it records itself. -/
theorem Sound.streams_written (sound : plain.Sound) (k : StreamId) :
    plain.written.streams k =
      (plain.streams k).map (Stream.served plain.config.initialWindowSize) := by
  calc plain.written.streams k
    _ = (plain.prepared.streams k).map Stream.turned := sound.prepared.streams_writeSends k
    _ = (plain.streams k).map (Stream.served plain.config.initialWindowSize) := by
        rw [sound.streams_prepared, Option.map_map]
        rfl

/-- A flush serves every stream, and takes out those that were reset unless they are in a queue. -/
theorem Sound.streams_flush (sound : plain.Sound) (k : StreamId) :
    plain.flush.1.streams k =
      if k ∈ plain.closing then
        ((plain.streams k).map (Stream.served plain.config.initialWindowSize)).filter
          Stream.isQueued
      else (plain.streams k).map (Stream.served plain.config.initialWindowSize) := by
  rw [flush_eq_reclaim, streams_reclaim, closing_written, sound.streams_written]

/-- What becomes of the stream of `id`, or of its absence, in a call on a connection whose streams
begin with the window `initial`. -/
inductive Evolves (initial : Int32) (id : StreamId) :
    Call → Option Stream → Option Stream → Prop where
  | absent (call : Call) : Evolves initial id call none none
  /-- The call names another stream or none. -/
  | apart {call : Call} (unnamed : call.target? ≠ some id) (calm : call ≠ .flush)
    (stream : Stream) : Evolves initial id call (some stream) (some stream)
  | opened : Evolves initial id (.accept id) none
      (some { Stream.withWindow initial with state := .opened })
  | refused (stream : Stream) : Evolves initial id (.accept id) (some stream) (some stream)
  | send (chunk : Chunk) (stream : Stream) :
    Evolves initial id (.send id chunk) (some stream) (some (stream.afterSend chunk))
  | reset (code : UInt32) (stream : Stream) :
    Evolves initial id (.reset id code) (some stream) (some (stream.afterReset code))
  | consume (count : Int32) (stream : Stream) :
    Evolves initial id (.consume id count) (some stream) (some (stream.afterConsume initial count))
  | grant (increment : Int32) (stream : Stream) :
    Evolves initial id (.grant id increment) (some stream) (some (stream.afterGrant increment))
  | flush (stream : Stream) :
    Evolves initial id .flush (some stream) (some (stream.served initial))
  | reclaim (stream : Stream) (unqueued : (stream.served initial).isQueued = false) :
    Evolves initial id .flush (some stream) none

/-- The stream of `id` in a call that names one stream. -/
theorem evolves_of_named {initial : Int32} {call : Call} {named : StreamId}
    {change : Stream → Stream} {before after : Option Stream} (target : call.target? = some named)
    (calm : call ≠ .flush)
    (acts : ∀ stream, Evolves initial named call (some stream) (some (change stream)))
    (same : after = if id = named then before.map change else before) :
    Evolves initial id call before after := by
  subst same
  cases before with
  | none =>
    rw [Option.map_none, ite_self]
    exact .absent call
  | some stream =>
    split
    · rename_i here
      exact here ▸ acts stream
    · rename_i elsewhere
      refine .apart ?_ calm stream
      rw [target]
      exact fun same => elsewhere (Option.some.inj same).symm

/-- What any call does to a stream. -/
theorem Sound.evolves (sound : plain.Sound) (call : Call) (id : StreamId) :
    Evolves plain.config.initialWindowSize id call (plain.streams id)
      ((plain.step call).1.streams id) := by
  cases call with
  | accept named =>
    have after : (plain.step (.accept named)).1.streams id = _ := streams_accept plain named id
    rw [after]
    split
    · rename_i accepted
      obtain ⟨rfl, yes⟩ := accepted
      rw [streams_of_accept yes]
      exact .opened
    · cases found : plain.streams id with
      | none => exact .absent _
      | some stream =>
        by_cases same : named = id
        · exact same ▸ .refused stream
        · refine .apart ?_ ?_ stream
          · exact fun target => same (Option.some.inj target)
          · exact nofun
  | send named chunk =>
    exact evolves_of_named rfl nofun (.send chunk) (streams_send plain named chunk id)
  | reset named code =>
    exact evolves_of_named rfl nofun (.reset code) (streams_reset plain named code id)
  | consume named count =>
    exact evolves_of_named rfl nofun (.consume count) (streams_consume plain named count id)
  | grant named increment =>
    exact evolves_of_named rfl nofun (.grant increment) (streams_grant plain named increment id)
  | flush =>
    have after : (plain.step .flush).1.streams id = _ := sound.streams_flush id
    rw [after]
    cases found : plain.streams id with
    | none => simpa using .absent _
    | some stream =>
      rw [Option.map_some]
      split
      · cases queued : (stream.served plain.config.initialWindowSize).isQueued with
        | true =>
          rw [Option.filter_some, if_pos queued]
          exact .flush stream
        | false =>
          rw [Option.filter_some, if_neg (Bool.not_eq_true _ ▸ queued)]
          exact .reclaim stream queued
      · exact .flush stream
  | census =>
    show Evolves _ id .census (plain.streams id) (plain.streams id)
    cases plain.streams id with
    | none => exact .absent _
    | some stream =>
      refine .apart ?_ ?_ stream
      · exact nofun
      · exact nofun

end Connection.Plain

end StreamMux
