import StreamMux.Proofs.Connection.Alone

/-!
# Streams do not see each other

Between calls the streams that were reset are those that wait to be removed, and those among them
that waited to send are known (`Plain.Orderly`). So what a flush reports can be told from the
streams alone (`Plain.Orderly.flush_events`), and with its events each stream does what it would do
on its own (`Plain.Orderly.step_eq`).
-/

namespace StreamMux

def Event.about (id : StreamId) (event : Event) : Bool := event.stream == id

def Event.within (kind : QueueKind) (event : Event) : Bool := event.queue == kind.label

@[simp] theorem Event.within_opened (kind : QueueKind) (id : StreamId) :
    (Event.opened id).within kind = false := by
  cases kind <;> rfl

@[simp] theorem Event.within_closed (kind : QueueKind) (id : StreamId) :
    (Event.closed id).within kind = false := by
  cases kind <;> rfl

@[simp] theorem Event.within_queued (queue kind : QueueKind) (reason : String) (id : StreamId) :
    (Event.queued queue reason id).within kind = (queue == kind) := by
  cases queue <;> cases kind <;> rfl

@[simp] theorem Event.within_dispatched (queue kind : QueueKind) (reason : String) (id : StreamId) :
    (Event.dispatched queue reason id).within kind = (queue == kind) := by
  cases queue <;> cases kind <;> rfl

@[simp] theorem Event.within_filtered (queue kind : QueueKind) (reason : String) (id : StreamId) :
    (Event.filtered queue reason id).within kind = (queue == kind) := by
  cases queue <;> cases kind <;> rfl

/-- Where each of some streams is reported once, a stream has one of the events or none. -/
theorem filter_map_about {ids : List StreamId} (distinct : ids.Nodup)
    {report : StreamId → Event} (names : ∀ k, (report k).stream = k) (id : StreamId) :
    (ids.map report).filter (Event.about id) = if id ∈ ids then [report id] else [] := by
  induction ids with
  | nil => rfl
  | cons k rest ih =>
    obtain ⟨alone, distinct⟩ := List.nodup_cons.1 distinct
    rw [List.map_cons, List.filter_cons, ih distinct]
    by_cases same : k = id
    · subst same
      simp [Event.about, names, alone]
    · simp [Event.about, names, same, Ne.symm same]

namespace Connection.Plain

variable {plain : Plain} {id : StreamId} {stream : Stream} {kind : QueueKind}

/-- The streams that were reset wait to be removed, in the order in which their resets are owed. -/
structure Orderly (plain : Plain) : Prop where
  coherent : ∀ {id stream}, plain.streams id = some stream → stream.Coherent
  closing : plain.closing = plain.lines.get .reset
  cancelled : ∀ id, id ∈ plain.cancelled ↔ (plain.streams id).any Stream.wasCancelled = true
  distinct : plain.cancelled.Nodup

theorem orderly_fresh (config : Config) : Orderly { config } := by
  constructor
  · exact nofun
  · rfl
  · simp
  · exact List.nodup_nil

theorem Orderly.mem_closing (orderly : plain.Orderly) (sound : plain.Sound)
    (found : plain.streams id = some stream) : id ∈ plain.closing ↔ stream.isClosed = true := by
  have flagged : stream.queued.reset = true ↔ id ∈ plain.lines.get .reset :=
    sound.flagged found .reset
  rw [orderly.closing, ← flagged, (orderly.coherent found).owed]

theorem Orderly.exists_closed (orderly : plain.Orderly) (sound : plain.Sound)
    (member : id ∈ plain.closing) :
    ∃ stream, plain.streams id = some stream ∧ stream.isClosed = true := by
  have listed := orderly.closing ▸ member
  obtain ⟨stream, found⟩ := sound.present listed
  exact ⟨stream, found, (orderly.mem_closing sound found).1 member⟩

theorem Orderly.nodup_closing (orderly : plain.Orderly) (sound : plain.Sound) :
    plain.closing.Nodup := by
  rw [orderly.closing]
  exact sound.distinct .reset

def select (plain : Plain) (kind : QueueKind) (choose : Stream → Bool) : List StreamId :=
  (plain.lines.get kind).filter fun id => (plain.streams id).any choose

theorem Sound.nodup_select (sound : plain.Sound) (kind : QueueKind) (choose : Stream → Bool) :
    (plain.select kind choose).Nodup :=
  (sound.distinct kind).filter _

theorem Sound.mem_select (sound : plain.Sound) (choose : Stream → Bool) :
    id ∈ plain.select kind choose ↔
      (plain.streams id).any (fun stream => stream.queued.get kind && choose stream) = true := by
  rw [select, List.mem_filter]
  cases found : plain.streams id with
  | none => simp
  | some stream => simp [← sound.flagged found kind]

/-- What is chosen of a queue is a matter of the streams in it. -/
theorem Sound.filter_line (sound : plain.Sound) {keep : StreamId → Bool} {choose : Stream → Bool}
    (same : ∀ k stream, plain.streams k = some stream → stream.queued.get kind = true →
      keep k = choose stream) :
    (plain.lines.get kind).filter keep = plain.select kind choose := by
  apply List.filter_congr
  intro k member
  obtain ⟨stream, found⟩ := sound.present member
  rw [same k stream found ((sound.flagged found kind).2 member), found, Option.any_some]

theorem lines_enqueueAll (plain : Plain) (ids : List StreamId) (kind other : QueueKind) :
    (ids.foldl (·.enqueue kind) plain).lines.get other =
      if other = kind then plain.lines.get kind ++ ids else plain.lines.get other := by
  induction ids generalizing plain with
  | nil =>
    split
    · rename_i same
      rw [List.append_nil, same, List.foldl_nil]
    · rfl
  | cons id rest ih =>
    rw [List.foldl_cons, ih, lines_enqueue, lines_enqueue, if_pos rfl]
    split
    · rw [List.append_assoc, List.singleton_append]
    · rfl

/-- The streams that have a turn are those that wait to send and were not reset. -/
theorem Sound.line_prepared (sound : plain.Sound) :
    plain.prepared.lines.get .send = plain.select .send (·.resetCode.isNone) := by
  show (plain.lines.get .send).filter _ = _
  apply sound.filter_line
  intro k stream found _
  dsimp only
  rw [found, Option.any_some, Option.not_isSome]

/-- The windows that are advertised are those of the streams that wait for it and are not closed. -/
theorem Sound.line_windowUpdate (sound : plain.Sound) :
    plain.filterSends.1.filterWindowUpdates.writeResets.1.lines.get .windowUpdate =
      plain.select .windowUpdate (!·.isClosed) := by
  show (plain.lines.get .windowUpdate).filter _ = _
  apply sound.filter_line
  intro k stream found _
  have filtered : plain.filterSends.1.streams k = _ := sound.streams_evict .send _ k
  dsimp only
  rw [filtered, found, Option.map_some, Option.any_some, Stream.evicted]
  split <;> rfl

/-- The streams that have written everything. -/
def finished (plain : Plain) : List StreamId :=
  plain.select .send fun stream => stream.resetCode.isNone && stream.payloadAfterFlush.1.isEmpty

/-- The streams that run out of credit. -/
def waiting (plain : Plain) : List StreamId :=
  plain.select .send fun stream => stream.resetCode.isNone && !stream.payloadAfterFlush.1.isEmpty

/-- A stream that has its turn has payload afterwards when its credit does not cover it. -/
theorem Sound.blocked_prepared (sound : plain.Sound) (found : plain.streams id = some stream)
    (turn : (stream.queued.send && stream.resetCode.isNone) = true) :
    (plain.prepared.emptyLine .send Stream.transmitted).blocked id =
      !stream.payloadAfterFlush.1.isEmpty := by
  have queued : (stream.prepared plain.config.initialWindowSize).queued.send = true := by
    rw [Stream.prepared_eq, turn]
  rw [blocked, sound.prepared.streams_emptyLine, sound.streams_prepared, found, Option.map_some,
    Option.map_some, Option.any_some, PerQueue.get, if_pos queued, Stream.pendingData_transmitted,
    Stream.prepared_eq, Stream.payloadAfterFlush, if_pos turn]

/-- Who is chosen of the streams that have a turn is a matter of these streams. -/
theorem Sound.filter_prepared (sound : plain.Sound) {keep : StreamId → Bool}
    {choose : Stream → Bool}
    (same : ∀ k stream, plain.streams k = some stream →
      (stream.queued.send && stream.resetCode.isNone) = true → keep k = choose stream) :
    (plain.prepared.lines.get .send).filter keep =
      plain.select .send fun stream => stream.resetCode.isNone && choose stream := by
  rw [sound.line_prepared, select, List.filter_filter]
  apply sound.filter_line
  intro k stream found queued
  rw [found, Option.any_some]
  cases code : stream.resetCode with
  | some code => simp
  | none =>
    have waits : stream.queued.send = true := queued
    rw [same k stream found (by rw [waits, code]; rfl)]
    simp

/-- Of the streams that have a turn, those that have payload afterwards run out of credit. -/
theorem Sound.filter_blocked (sound : plain.Sound) :
    (plain.prepared.lines.get .send).filter
      (plain.prepared.emptyLine .send Stream.transmitted).blocked = plain.waiting :=
  sound.filter_prepared fun _ _ found turn => sound.blocked_prepared found turn

theorem Sound.events_writeSends (sound : plain.Sound) :
    plain.prepared.writeSends.2 =
      plain.finished.map (.dispatched .send "end_stream") ++
        plain.waiting.map (.queued .send "blocked_on_window") := by
  let written := plain.prepared.emptyLine .send Stream.transmitted
  have finished : (plain.prepared.lines.get .send).filter (!written.blocked ·) = plain.finished :=
    sound.filter_prepared fun k stream found turn => by
      rw [sound.blocked_prepared found turn, Bool.not_not]
  rw [Plain.writeSends, finished, sound.filter_blocked]

/-- The queue for sending keeps the streams that run out of credit. -/
theorem Sound.line_written (sound : plain.Sound) :
    plain.written.lines.get .send = plain.waiting := by
  show plain.prepared.writeSends.1.lines.get .send = plain.waiting
  rw [Plain.writeSends]
  dsimp only
  rw [lines_enqueueAll, if_pos rfl, sound.filter_blocked]
  rfl

/-- Streams that are in no queue are removed one after the other, with an event for each. -/
theorem events_reclaimAll {ids : List StreamId} (distinct : ids.Nodup)
    (idle : ∀ k ∈ ids, ∃ stream, plain.streams k = some stream ∧ stream.isQueued = false)
    (events : List Event) :
    (ids.foldl reclaimNext (plain, events)).2 = events ++ ids.map .closed := by
  induction ids generalizing plain events with
  | nil => simp
  | cons id rest ih =>
    obtain ⟨alone, distinct⟩ := List.nodup_cons.1 distinct
    obtain ⟨stream, found, unqueued⟩ := idle id List.mem_cons_self
    have closed : (plain.reclaimOne id).2 = [.closed id] := by
      simp [reclaimOne, serve, found, unqueued]
    have others : ∀ k ∈ rest, ∃ stream,
        (plain.reclaimOne id).1.streams k = some stream ∧ stream.isQueued = false := by
      intro k member
      have apart : k ≠ id := by
        rintro rfl
        exact alone member
      rw [streams_reclaimOne, if_neg apart]
      exact idle k (List.mem_cons_of_mem _ member)
    rw [List.foldl_cons, reclaimNext, ih distinct others, closed]
    simp

/-- What a flush does to a stream and reports about it can be told from the stream. -/
theorem Orderly.streams_flush (orderly : plain.Orderly) (sound : plain.Sound) (k : StreamId) :
    plain.flush.1.streams k =
      (plain.streams k).bind (Stream.after? plain.config.initialWindowSize .flush) := by
  rw [sound.streams_flush]
  cases found : plain.streams k with
  | none => simp
  | some stream =>
    have listed := orderly.mem_closing sound found
    rw [Option.map_some, Option.bind_some, Stream.after?]
    cases closed : stream.isClosed with
    | true =>
      have unqueued := (orderly.coherent found).isQueued_served closed
        plain.config.initialWindowSize
      rw [if_pos (listed.2 closed), Option.filter_some, unqueued]
      rfl
    | false =>
      rw [if_neg fun member => Bool.false_ne_true (closed ▸ listed.1 member)]
      rfl

theorem Orderly.flush_events (orderly : plain.Orderly) (sound : plain.Sound) :
    plain.flush.2 =
      plain.cancelled.map (.filtered .send "reset_before_write") ++
      plain.closing.map (.dispatched .reset "rst_stream") ++
      (plain.select .windowUpdate (!·.isClosed)).map
        (.dispatched .windowUpdate "window_update") ++
      (plain.finished.map (.dispatched .send "end_stream") ++
        plain.waiting.map (.queued .send "blocked_on_window")) ++
      plain.closing.map .closed := by
  have idle : ∀ k ∈ plain.closing, ∃ stream,
      plain.written.streams k = some stream ∧ stream.isQueued = false := by
    intro k member
    obtain ⟨stream, found, closed⟩ := orderly.exists_closed sound member
    refine ⟨stream.served plain.config.initialWindowSize, ?_,
      (orderly.coherent found).isQueued_served closed _⟩
    rw [sound.streams_written, found, Option.map_some]
  have removed : plain.written.reclaim.2 = plain.closing.map .closed := by
    rw [reclaim, closing_written]
    exact (events_reclaimAll (orderly.nodup_closing sound) idle []).trans (List.nil_append _)
  show _ ++ _ ++ (plain.filterSends.1.filterWindowUpdates.writeResets.1.lines.get
    .windowUpdate).map _ ++ plain.prepared.writeSends.2 ++ plain.written.reclaim.2 = _
  rw [sound.line_windowUpdate, sound.events_writeSends, removed, orderly.closing]
  rfl

/-- After a flush only the queue for sending has streams, those that run out of credit. -/
theorem Sound.lines_flush (sound : plain.Sound) :
    plain.flush.1.lines.get .send = plain.waiting ∧ plain.flush.1.lines.get .reset = [] ∧
      plain.flush.1.lines.get .windowUpdate = [] := by
  have lines : plain.flush.1.lines = plain.written.lines :=
    reclaimAll_keeps Plain.lines (fun _ _ => rfl) (fun _ _ _ _ => rfl) ..
  have others (kind : QueueKind) (other : kind ≠ .send) :
      plain.written.lines.get kind = plain.prepared.lines.get kind := by
    show plain.prepared.writeSends.1.lines.get kind = _
    rw [Plain.writeSends]
    dsimp only
    rw [lines_enqueueAll, if_neg other, Plain.emptyLine, lines_setLine, if_neg other]
    rfl
  rw [lines]
  refine ⟨sound.line_written, ?_, ?_⟩
  · rw [others .reset (by decide)]
    rfl
  · rw [others .windowUpdate (by decide)]
    rfl

/-- After a flush no stream is closed, and none waits to be removed. -/
theorem Orderly.isClosed_flush (orderly : plain.Orderly) (sound : plain.Sound)
    (found : plain.flush.1.streams id = some stream) : stream.isClosed = false := by
  rw [orderly.streams_flush sound] at found
  obtain ⟨old, before, left⟩ := Option.bind_eq_some_iff.1 found
  rw [Stream.after?] at left
  split at left
  · cases left
  · rename_i stillOpen
    cases left
    exact Stream.isClosed_served _ (Bool.not_eq_true _ ▸ stillOpen)

theorem Orderly.closing_flush (orderly : plain.Orderly) (sound : plain.Sound) :
    plain.flush.1.closing = [] := by
  let reclaimed := (plain.written.closing.foldl reclaimNext (plain.written, [])).1
  have closing : reclaimed.closing = plain.closing :=
    (reclaimAll_keeps Plain.closing (fun _ _ => rfl) (fun _ _ _ _ => rfl) ..).trans
      (closing_written plain)
  show reclaimed.closing.filter (fun id => (plain.flush.1.streams id).isSome) = []
  rw [closing, List.filter_eq_nil_iff]
  intro k member
  obtain ⟨stream, found, closed⟩ := orderly.exists_closed sound member
  rw [orderly.streams_flush sound, found, Option.bind_some, Stream.after?, if_pos closed]
  exact nofun

theorem cancelled_flush (plain : Plain) : plain.flush.1.cancelled = [] :=
  (reclaimAll_keeps Plain.cancelled (fun _ _ => rfl) (fun _ _ _ _ => rfl) ..).trans
    (cancelled_written plain)

theorem Orderly.flush (orderly : plain.Orderly) (sound : plain.Sound) : plain.flush.1.Orderly := by
  constructor
  · intro k later found
    rw [orderly.streams_flush sound] at found
    obtain ⟨old, before, left⟩ := Option.bind_eq_some_iff.1 found
    exact (orderly.coherent before).after? left
  · rw [orderly.closing_flush sound, sound.lines_flush.2.1]
  · intro k
    rw [cancelled_flush]
    cases found : plain.flush.1.streams k with
    | none => simp
    | some later => simp [Stream.wasCancelled, orderly.isClosed_flush sound found]
  · rw [cancelled_flush]
    exact List.nodup_nil

/-- What a call that names a stream reports is a matter of that stream. -/
theorem events_serve {action : Plain → Stream → Plain × List Event} {report : Stream → List Event}
    (acts : ∀ stream, plain.streams id = some stream →
      (action (plain.look id) stream).2 = report stream) :
    (plain.serve id action).2 = (plain.streams id).elim [] report := by
  unfold serve
  cases found : plain.streams id with
  | none => rfl
  | some stream => exact acts stream found

theorem events_send (plain : Plain) (id : StreamId) (chunk : Chunk) :
    (plain.send id chunk).2 = (plain.streams id).elim []
      (Stream.events plain.config.initialWindowSize id (.send id chunk)) := by
  apply events_serve
  intro stream _
  dsimp only [Stream.events]
  cases stream.isClosed <;> cases stream.queued.send <;> rfl

theorem events_reset (plain : Plain) (id : StreamId) (code : UInt32) :
    (plain.reset id code).2 = (plain.streams id).elim []
      (Stream.events plain.config.initialWindowSize id (.reset id code)) := by
  apply events_serve
  intro stream _
  dsimp only [Stream.events]
  cases stream.isClosed <;> cases stream.queued.reset <;> rfl

theorem events_consume (plain : Plain) (id : StreamId) (count : Int32) :
    (plain.consume id count).2 = (plain.streams id).elim []
      (Stream.events plain.config.initialWindowSize id (.consume id count)) := by
  apply events_serve
  intro stream _
  have config : (plain.look id).config = plain.config := rfl
  simp only [Stream.events, config_set, config]
  split <;> rfl

theorem events_grant (plain : Plain) (id : StreamId) (increment : Int32) :
    (plain.grant id increment).2 = (plain.streams id).elim []
      (Stream.events plain.config.initialWindowSize id (.grant id increment)) := by
  apply events_serve
  intro stream _
  rfl

theorem events_accept (plain : Plain) (id : StreamId) :
    (plain.accept id).2.2 = if (plain.accept id).1 then [.opened id] else [] := by
  unfold accept
  split
  · rfl
  · split <;> rfl

/-- What a call that names a stream does to the streams, and what it reports. -/
theorem step_named (plain : Plain) {call : Call} (target : call.target? = some id)
    (asked : Alone.asks call = false) :
    (∀ k, (plain.step call).1.streams k =
        if k = id then
          (plain.streams k).bind (Stream.after? plain.config.initialWindowSize call)
        else plain.streams k) ∧
      (plain.step call).2 =
        (plain.streams id).elim [] (Stream.events plain.config.initialWindowSize id call) := by
  have stays (k : StreamId) (change : Stream → Stream) :
      (plain.streams k).map change = (plain.streams k).bind fun stream => some (change stream) := by
    rw [Option.map_eq_bind]
    rfl
  cases call with
  | send named chunk =>
    cases target
    exact ⟨fun k => (streams_send ..).trans (by rw [stays]; rfl), events_send ..⟩
  | reset named code =>
    cases target
    exact ⟨fun k => (streams_reset ..).trans (by rw [stays]; rfl), events_reset ..⟩
  | consume named count =>
    cases target
    exact ⟨fun k => (streams_consume ..).trans (by rw [stays]; rfl), events_consume ..⟩
  | grant named increment =>
    cases target
    exact ⟨fun k => (streams_grant ..).trans (by rw [stays]; rfl), events_grant ..⟩
  | accept named => cases asked
  | flush | census => cases target

/-- What resets leave to be done. -/
def backlog (plain : Plain) : List StreamId × List StreamId × List StreamId :=
  (plain.closing, plain.cancelled, plain.lines.get .reset)

theorem backlog_enqueue (plain : Plain) (id : StreamId) (other : kind ≠ .reset) :
    (plain.enqueue kind id).backlog = plain.backlog := by
  rw [backlog, lines_enqueue, if_neg (Ne.symm other)]
  rfl

/-- Only resets and flushes change what is left to be done. -/
theorem backlog_step (plain : Plain) {call : Call} (calm : call ≠ .flush)
    (kept : ∀ id code, call ≠ .reset id code) : (plain.step call).1.backlog = plain.backlog := by
  cases call with
  | accept id =>
    simp only [step, accept]
    split
    · rfl
    · split <;> rfl
  | send id chunk =>
    refine serve_keeps Plain.backlog rfl fun stream => ?_
    split
    · rfl
    · dsimp only
      split
      · rfl
      · exact backlog_enqueue _ id (by decide)
  | reset id code => exact absurd rfl (kept id code)
  | consume id count =>
    refine serve_keeps Plain.backlog rfl fun stream => ?_
    dsimp only
    split
    · rfl
    · exact backlog_enqueue _ id (by decide)
  | grant id increment =>
    refine serve_keeps Plain.backlog rfl fun stream => ?_
    rfl
  | flush => exact absurd rfl calm
  | census => rfl

/-- Streams may change as long as none is cancelled and nothing is left to be done. -/
theorem Orderly.of_backlog {after : Plain} (orderly : plain.Orderly)
    (backlog : after.backlog = plain.backlog)
    (coherent : ∀ id stream, after.streams id = some stream → stream.Coherent)
    (cancels : ∀ id, (after.streams id).any Stream.wasCancelled =
      (plain.streams id).any Stream.wasCancelled) : after.Orderly := by
  obtain ⟨closing, both⟩ := Prod.mk.inj backlog
  obtain ⟨cancelled, line⟩ := Prod.mk.inj both
  constructor
  · exact fun found => coherent _ _ found
  · rw [closing, line, orderly.closing]
  · intro id
    rw [cancelled, cancels, orderly.cancelled]
  · rw [cancelled]
    exact orderly.distinct

theorem Orderly.accept (orderly : plain.Orderly) (id : StreamId) :
    (plain.accept id).2.1.Orderly := by
  have backlog : (plain.accept id).2.1.backlog = plain.backlog :=
    backlog_step plain (show (.accept id : Call) ≠ .flush from nofun) nofun
  refine orderly.of_backlog backlog (fun k stream found => ?_) fun k => ?_
  · rw [streams_accept] at found
    split at found
    · cases found
      exact Stream.coherent_opened _
    · exact orderly.coherent found
  · rw [streams_accept]
    split
    · rename_i accepted
      rw [accepted.1, streams_of_accept accepted.2]
      rfl
    · rfl

/-- A reset that closes a stream leaves it to be removed, with a reset that is owed. -/
theorem backlog_reset (found : plain.streams id = some stream) (stillOpen : stream.isClosed = false)
    (unowed : stream.queued.reset = false) (code : UInt32) :
    (plain.reset id code).1.backlog =
      (plain.closing ++ [id],
        if stream.queued.send then plain.cancelled ++ [id] else plain.cancelled,
        plain.lines.get .reset ++ [id]) := by
  simp only [Plain.reset, serve, found, stillOpen, unowed, Bool.false_eq_true, if_false, backlog,
    lines_enqueue, if_true]
  rfl

theorem Orderly.reset (orderly : plain.Orderly) (id : StreamId) (code : UInt32) :
    (plain.reset id code).1.Orderly := by
  have coherent : ∀ k later, (plain.reset id code).1.streams k = some later → later.Coherent := by
    intro k later found
    rw [streams_reset] at found
    split at found
    · obtain ⟨old, before, rfl⟩ := Option.map_eq_some_iff.1 found
      exact (orderly.coherent before).afterReset code
    · exact orderly.coherent found
  cases found : plain.streams id with
  | none =>
    have missed : (plain.reset id code).1 = plain.look id := by
      simp only [Plain.reset, serve, found]
    rw [missed] at coherent ⊢
    exact orderly.of_backlog rfl coherent fun _ => rfl
  | some stream =>
    cases closed : stream.isClosed with
    | true =>
      have refused : (plain.reset id code).1 = plain.look id := by
        simp only [Plain.reset, serve, found, closed, if_true]
      rw [refused] at coherent ⊢
      exact orderly.of_backlog rfl coherent fun _ => rfl
    | false =>
      have unowed := (orderly.coherent found).owed.trans closed
      obtain ⟨closing, both⟩ := Prod.mk.inj (backlog_reset found closed unowed code)
      obtain ⟨cancelled, line⟩ := Prod.mk.inj both
      have unknown : id ∉ plain.cancelled := by
        rw [orderly.cancelled, found, Option.any_some, Stream.wasCancelled, closed]
        exact Bool.false_ne_true
      refine ⟨fun found => coherent _ _ found, ?_, fun k => ?_, ?_⟩
      · rw [closing, line, orderly.closing]
      · rw [cancelled, streams_reset]
        by_cases same : k = id
        · subst same
          rw [if_pos rfl, found, Option.map_some, Option.any_some,
            Stream.wasCancelled_afterReset closed]
          cases stream.queued.send <;> simp [unknown]
        · rw [if_neg same, ← orderly.cancelled]
          cases stream.queued.send <;> simp [same]
      · rw [cancelled]
        split
        · exact List.nodup_append.2 ⟨orderly.distinct, List.nodup_singleton id, by
            rintro k member _ last rfl
            exact unknown (List.mem_singleton.1 last ▸ member)⟩
        · exact orderly.distinct

/-- Every call leaves the streams that were reset in order. -/
theorem Orderly.step (orderly : plain.Orderly) (sound : plain.Sound) (call : Call) :
    (plain.step call).1.Orderly := by
  -- A call that names one stream keeps the others, and neither resets nor cancels that one.
  have calm {named : StreamId} (target : call.target? = some named)
      (asked : Alone.asks call = false) (kept : ∀ id code, call ≠ .reset id code)
      (cancels : ∀ stream : Stream, (stream.after? plain.config.initialWindowSize call).any
        Stream.wasCancelled = stream.wasCancelled) : (plain.step call).1.Orderly := by
    obtain ⟨streams, -⟩ := plain.step_named target asked
    have flushes : call ≠ .flush := by
      rintro rfl
      cases target
    refine orderly.of_backlog (plain.backlog_step flushes kept) (fun k later found => ?_)
      fun k => ?_
    · rw [streams] at found
      split at found
      · obtain ⟨old, before, left⟩ := Option.bind_eq_some_iff.1 found
        exact (orderly.coherent before).after? left
      · exact orderly.coherent found
    · rw [streams]
      split
      · cases plain.streams k with
        | none => rfl
        | some stream => exact cancels stream
      · rfl
  cases call with
  | accept id => exact orderly.accept id
  | send id chunk => exact calm rfl rfl nofun (Stream.wasCancelled_afterSend chunk)
  | reset id code => exact orderly.reset id code
  | consume id count => exact calm rfl rfl nofun (Stream.wasCancelled_afterConsume _ count)
  | grant id increment => exact calm rfl rfl nofun fun _ => rfl
  | flush => exact orderly.flush sound
  | census => exact orderly

end Connection.Plain

end StreamMux
