import StreamMux.Proofs.Connection.Flags
import StreamMux.Proofs.Connection.Tracks

/-!
# A connection does what it does without slots and links

A connection and one without slots and links agree when the same streams are under the
same ids, every queue is the line of its list, and the table of slots names each stream
(`Connection.Models`). Every call succeeds, with the same events, and leaves them in
agreement (`Connection.Models.step`, `Connection.Models.run`).
-/

namespace StreamMux.Connection

/-- The connection is the plain one, with its streams in slots and its lists in links. -/
structure Models (conn : Connection) (plain : Plain) : Prop where
  config : conn.config = plain.config
  tracks : conn.store.Tracks conn.queues plain.streams plain.lines
  sound : plain.Sound
  named : ∀ {id key}, conn.store.key? id = some key → conn.slotIds[key]? = some id
  stats : conn.store.stats = plain.stats
  closing : conn.closing = plain.closing
  cancelled : conn.cancelled = plain.cancelled
  openStreams : conn.openStreams = plain.openStreams

/-- A computation succeeds as the plain one does, with the same events. -/
def Agrees (outcome : Checked (Connection × List Event)) (plainly : Plain × List Event) : Prop :=
  ∃ conn, outcome = .ok (conn, plainly.2) ∧ conn.Models plainly.1

variable {conn : Connection} {plain : Plain} {id : StreamId} {ids : List StreamId} {key : Nat}
  {keys : List Nat} {stream : Stream} {kind : QueueKind} {after : Store}

namespace Models

/-- Streams and lists change, and no stream comes or goes. -/
theorem rewritten (models : conn.Models plain) {queues : PerQueue Queue}
    {streams : StreamId → Option Stream} {lines : PerQueue (List StreamId)}
    (rewritten : conn.store.Rewritten after) (tracks : after.Tracks queues streams lines)
    (sound : Plain.Sound { plain with streams, lines }) :
    Models { conn with store := after, queues } { plain with streams, lines } :=
  { models with
    tracks
    sound
    named := fun {id key} bound => by
      rw [Store.key?, rewritten.ids] at bound
      exact models.named bound
    stats := rewritten.stats.trans models.stats }

theorem look (models : conn.Models plain) (id : StreamId) :
    Models { conn with store := (conn.store.find id).2 } (plain.look id) :=
  { models with
    tracks := models.tracks.countLookup _
    sound := models.sound.look id
    stats := by
      have present := models.tracks.key?_isSome id
      rw [Store.find, present, Plain.look]
      split
      · rename_i found
        rw [found, Store.stats_countLookup_true, models.stats]
      · rename_i missed
        rw [Bool.not_eq_true] at missed
        rw [missed, Store.stats_countLookup_false, models.stats] }

/-- What is stored at the key of an id is the stream of the id. -/
theorem streams (models : conn.Models plain) (bound : conn.store.key? id = some key)
    (present : conn.store.get? key = some stream) : plain.streams id = some stream.unlinked := by
  rw [models.tracks.streams_of_key? bound, present, Option.map_some]

/-- A stream changes, but neither its links nor its flags. -/
theorem put (models : conn.Models plain) (bound : conn.store.key? id = some key)
    (present : conn.store.get? key = some stream) (new : Stream) (links : new.links = stream.links)
    (queued : new.queued = stream.queued)
    (state : new.state = .opened ∨ new.state = .halfClosedLocal ∨ new.state = .closed) :
    Models { conn with store := conn.store.put key new } (plain.set id new.unlinked) :=
  models.rewritten (Store.rewritten_put present new) (models.tracks.put bound present new links)
    (models.sound.set (models.streams bound present) new.unlinked queued state)

theorem state (models : conn.Models plain) (bound : conn.store.key? id = some key)
    (present : conn.store.get? key = some stream) :
    stream.state = .opened ∨ stream.state = .halfClosedLocal ∨ stream.state = .closed := by
  have state := models.sound.states (models.streams bound present)
  exact state

/-- A stream is in the lists that its flags name. -/
theorem queued_iff (models : conn.Models plain) (bound : conn.store.key? id = some key)
    (present : conn.store.get? key = some stream) (kind : QueueKind) :
    stream.queued.get kind = true ↔ id ∈ plain.lines.get kind :=
  models.sound.flagged (models.streams bound present) kind

theorem absent (models : conn.Models plain) (bound : conn.store.key? id = some key)
    (present : conn.store.get? key = some stream) (kind : QueueKind)
    (unqueued : stream.queued.get kind = false) :
    id ∉ plain.lines.get kind := by
  rw [← models.queued_iff bound present, unqueued]
  exact Bool.false_ne_true

/-- A stream outside a list joins its queue. -/
theorem enqueue (models : conn.Models plain) (bound : conn.store.key? id = some key)
    (absent : id ∉ plain.lines.get kind) :
    ∃ conn', conn.enqueue kind key = .ok conn' ∧ conn'.Models (plain.enqueue kind id) ∧
      conn'.slotIds = conn.slotIds ∧ conn.store.Rewritten conn'.store := by
  obtain ⟨stream, present⟩ := models.tracks.settled.exists_get? bound
  have found := models.streams bound present
  have flagged := models.tracks.put bound present (stream.setQueued kind true) rfl
  have streams : (fun k => if k = id then some (stream.setQueued kind true).unlinked
      else plain.streams k) = (plain.enqueue kind id).streams := by
    funext k
    rw [Plain.streams_enqueue]
    split
    · rename_i same
      rw [same, found]
      rfl
    · rfl
  rw [streams] at flagged
  obtain ⟨queue, after, pushed, rewritten, tracks⟩ := flagged.push bound absent
  have whole := (Store.rewritten_put present _).trans rewritten
  refine ⟨{ conn with store := after, queues := conn.queues.set kind queue }, ?_,
    models.rewritten whole tracks (models.sound.enqueue found absent), rfl, whole⟩
  simp [Connection.enqueue, Store.modify_of_get? present, pushed]

/-- The table of slots names the streams of a line. -/
theorem mapM_idOf (models : conn.Models plain) (names : conn.store.Names ids keys) :
    keys.mapM conn.idOf = .ok ids := by
  induction names with
  | nil => rfl
  | cons bound names ih =>
    rw [List.mapM_cons, idOf_eq_ok_iff.2 (models.named bound), ih]
    rfl

theorem serve (models : conn.Models plain)
    {action : Connection → Nat → Stream → Checked (Connection × List Event)}
    {plainly : Plain → Stream → Plain × List Event}
    (served : ∀ {conn : Connection} {plain : Plain} {key : Nat} {stream : Stream},
      conn.Models plain → conn.store.key? id = some key → conn.store.get? key = some stream →
      Agrees (action conn key stream) (plainly plain stream.unlinked)) :
    Agrees (conn.serve id action) (plain.serve id plainly) := by
  have looked := models.look id
  unfold Connection.serve Plain.serve
  cases found : plain.streams id with
  | none =>
    have unbound := models.tracks.key?_eq_none found
    simp only [Store.find, unbound] at looked ⊢
    exact ⟨_, rfl, looked⟩
  | some stream =>
    obtain ⟨key, old, bound, present, rfl⟩ := models.tracks.exists_get? found
    have fetched : (conn.store.countLookup true).fetch key = .ok old :=
      Store.fetch_of_get? present
    simp only [Store.find, bound, Option.isSome_some, fetched] at looked ⊢
    exact served looked bound present

/-- The table of slots names a new stream, and still names the others. -/
theorem named_inserted (models : conn.Models plain)
    (inserted : conn.store.Inserted id stream key after) {other : StreamId} {at' : Nat}
    (bound : after.key? other = some at') :
    (recordSlot conn.slotIds key id)[at']? = some other := by
  rw [inserted.key?] at bound
  split at bound
  · rename_i same
    cases bound
    rw [getElem?_recordSlot (.inl rfl), if_pos rfl, same]
  · have named := models.named bound
    have within : at' < conn.slotIds.size := (Array.getElem?_eq_some_iff.1 named).1
    have apart : at' ≠ key := by
      rintro rfl
      obtain ⟨old, present⟩ := models.tracks.settled.exists_get? bound
      rw [inserted.vacant] at present
      cases present
    rw [getElem?_recordSlot (.inr within), if_neg apart, named]

theorem accept (models : conn.Models plain) (id : StreamId) :
    ∃ conn', conn.accept id = .ok ((plain.accept id).1, conn', (plain.accept id).2.2) ∧
      conn'.Models (plain.accept id).2.1 := by
  unfold Connection.accept Plain.accept
  rw [← models.config, ← models.openStreams]
  by_cases full : conn.config.maxConcurrentStreams ≤ conn.openStreams
  · rw [if_pos full, if_pos full]
    exact ⟨conn, rfl, models⟩
  rw [if_neg full, if_neg full]
  have looked := models.look id
  cases found : plain.streams id with
  | some stream =>
    obtain ⟨key, old, bound, -, -⟩ := models.tracks.exists_get? found
    rw [Store.entry_of_bound bound]
    simp only [Store.find, bound] at looked
    exact ⟨_, rfl, looked⟩
  | none =>
    have unbound := models.tracks.key?_eq_none found
    obtain ⟨key, after, filled, inserted, stats⟩ :=
      models.tracks.settled.fill unbound conn.openedStream
    rw [Store.entry_of_unbound unbound]
    have same : plain.openedStream = conn.openedStream := by
      rw [Plain.openedStream, Connection.openedStream, models.config]
    refine ⟨{ conn with
      store := after
      slotIds := recordSlot conn.slotIds key id
      openStreams := conn.openStreams + 1 }, by simp [filled], ?_⟩
    rw [same]
    have opened := looked.sound.open found conn.openedStream rfl rfl
    have tracks := models.tracks.inserted unbound inserted rfl
    exact
      { models with
        tracks
        sound := opened.of_eq rfl rfl
        named := models.named_inserted inserted
        stats := by
          rw [stats, models.stats]
          simp [Plain.look, Plain.set, found]
        openStreams := rfl }

theorem send (models : conn.Models plain) (id : StreamId) (chunk : Chunk) :
    Agrees (conn.send id chunk) (plain.send id chunk) := by
  refine models.serve fun {conn plain key stream} models bound present => ?_
  have state := models.state bound present
  let new := { stream with pendingData := stream.pendingData ++ [chunk] }
  have stored := models.put bound present new rfl rfl state
  have closed : stream.unlinked.isClosed = stream.isClosed := rfl
  have queued : stream.unlinked.queued = stream.queued := rfl
  rw [closed, queued]
  split
  · exact ⟨conn, rfl, models⟩
  · rw [Store.set_of_get? present]
    cases waits : stream.queued.send with
    | true => exact ⟨_, rfl, stored⟩
    | false =>
      obtain ⟨conn', enqueued, models', slotIds, -⟩ :=
        stored.enqueue bound (models.absent bound present .send waits)
      have named : conn'.idOf key = .ok id := by
        rw [idOf_eq_ok_iff, slotIds]
        exact models.named bound
      refine ⟨conn', ?_, models'⟩
      simp [enqueued, named, new]

theorem reset (models : conn.Models plain) (id : StreamId) (code : UInt32) :
    Agrees (conn.reset id code) (plain.reset id code) := by
  refine models.serve fun {conn plain key stream} models bound present => ?_
  let new := { stream with state := .closed, resetCode := some code, pendingData := [] }
  have stored := models.put bound present new rfl rfl (.inr (.inr rfl))
  have closed : stream.unlinked.isClosed = stream.isClosed := rfl
  have queued : stream.unlinked.queued = stream.queued := rfl
  rw [closed, queued]
  split
  · exact ⟨conn, rfl, models⟩
  · rw [Store.set_of_get? present]
    have noted :
        Models { conn with
            store := conn.store.put key new
            closing := conn.closing ++ [id]
            cancelled := if stream.queued.send then conn.cancelled ++ [id] else conn.cancelled }
          { plain.set id new.unlinked with
            closing := plain.closing ++ [id]
            cancelled :=
              if stream.queued.send then plain.cancelled ++ [id] else plain.cancelled } :=
      { stored with
        sound := stored.sound.of_eq rfl rfl
        closing := by rw [models.closing]
        cancelled := by rw [models.cancelled] }
    cases waits : stream.queued.reset with
    | true => exact ⟨_, rfl, noted⟩
    | false =>
      obtain ⟨conn', enqueued, models', -, -⟩ :=
        noted.enqueue bound (models.absent bound present .reset waits)
      refine ⟨conn', ?_, models'⟩
      simp [enqueued, new]

theorem consume (models : conn.Models plain) (id : StreamId) (count : Int32) :
    Agrees (conn.consume id count) (plain.consume id count) := by
  refine models.serve fun {conn plain key stream} models bound present => ?_
  have state := models.state bound present
  let new := { stream with recvWindow := stream.recvWindow - count }
  have stored := models.put bound present new rfl rfl state
  have closed : stream.unlinked.isClosed = stream.isClosed := rfl
  have queued : stream.unlinked.queued = stream.queued := rfl
  have window : stream.unlinked.recvWindow = stream.recvWindow := rfl
  dsimp only
  rw [closed, queued, window, Plain.config_set, ← models.config, Store.set_of_get? present,
    Checked.ok_bind]
  split
  · exact ⟨_, rfl, stored⟩
  · rename_i due
    have waits : stream.queued.windowUpdate = false := by
      simp only [Bool.or_eq_true, not_or, Bool.not_eq_true] at due
      exact due.1.2
    obtain ⟨conn', enqueued, models', -, -⟩ :=
      stored.enqueue bound (models.absent bound present .windowUpdate waits)
    refine ⟨conn', ?_, models'⟩
    simp [enqueued, new]

theorem grant (models : conn.Models plain) (id : StreamId) (increment : Int32) :
    Agrees (conn.grant id increment) (plain.grant id increment) := by
  refine models.serve fun {conn plain key stream} models bound present => ?_
  have state := models.state bound present
  let new := { stream with sendWindow := grantWindow stream.sendWindow increment }
  have stored := models.put bound present new rfl rfl state
  rw [Store.set_of_get? present]
  exact ⟨_, rfl, stored⟩

theorem evict (models : conn.Models plain) (kind : QueueKind) (drop : Stream → Bool)
    (blind : ∀ stream : Stream, drop stream.unlinked = drop stream) :
    ∃ queue after, (conn.queues.get kind).evict kind drop conn.store = .ok (queue, after) ∧
      Models { conn with store := after, queues := conn.queues.set kind queue }
        (plain.evict kind drop) := by
  obtain ⟨queue, after, evicted, rewritten, tracks⟩ := models.tracks.evict blind
  exact ⟨queue, after, evicted, models.rewritten rewritten tracks (models.sound.evict kind drop)⟩

theorem filterSends (models : conn.Models plain) : Agrees conn.filterSends plain.filterSends := by
  obtain ⟨queue, after, evicted, models'⟩ := models.evict .send (·.resetCode.isSome) fun _ => rfl
  rw [PerQueue.get] at evicted
  refine ⟨{ conn with
    store := after
    queues := conn.queues.set .send queue
    cancelled := [] }, ?_, { models' with sound := models'.sound.of_eq rfl rfl, cancelled := rfl }⟩
  simp [Connection.filterSends, Plain.filterSends, evicted, models.cancelled]

theorem filterWindowUpdates (models : conn.Models plain) :
    ∃ conn', conn.filterWindowUpdates = .ok conn' ∧ conn'.Models plain.filterWindowUpdates := by
  obtain ⟨queue, after, evicted, models'⟩ := models.evict .windowUpdate Stream.isClosed fun _ => rfl
  rw [PerQueue.get] at evicted
  refine ⟨_, ?_, models'⟩
  simp [Connection.filterWindowUpdates, evicted]

/-- Emptying a queue and changing each of its streams. -/
theorem emptyLine (models : conn.Models plain) (kind : QueueKind) (change : Stream → Stream)
    (links : ∀ stream, (change stream).links = stream.links)
    (blind : ∀ stream : Stream, (change stream).unlinked = change stream.unlinked)
    (sound : (plain.emptyLine kind change).Sound) :
    ∃ keys middle after, conn.drain kind = .ok (keys, middle) ∧
      middle.store.modifyAll keys change = .ok after ∧ after.Names (plain.lines.get kind) keys ∧
      Models { middle with store := after } (plain.emptyLine kind change) := by
  obtain ⟨keys, drained, popped, rewritten, names, tracks⟩ := models.tracks.drain kind
  obtain ⟨after, modified, rewritten', tracks'⟩ :=
    tracks.modifyAll names (models.sound.distinct kind) links blind
  refine ⟨keys, { conn with store := drained, queues := conn.queues.set kind .empty }, after, ?_,
    modified, names.congr fun k _ => ?_,
    models.rewritten (rewritten.trans rewritten') tracks' sound⟩
  · simp [Connection.drain, popped]
  · rw [Store.key?, Store.key?, rewritten'.ids]

theorem dispatch (models : conn.Models plain) (kind : QueueKind) (reason : String)
    (change : Stream → Stream) (links : ∀ stream, (change stream).links = stream.links)
    (blind : ∀ stream : Stream, (change stream).unlinked = change stream.unlinked)
    (sound : (plain.emptyLine kind change).Sound) :
    Agrees (conn.dispatch kind reason change) (plain.dispatch kind reason change) := by
  obtain ⟨keys, middle, after, drained, modified, names, models'⟩ :=
    models.emptyLine kind change links blind sound
  have ids : keys.mapM middle.idOf = .ok (plain.lines.get kind) := models'.mapM_idOf names
  refine ⟨{ middle with store := after }, ?_, models'⟩
  simp [Connection.dispatch, Plain.dispatch, drained, modified, ids]

theorem writeResets (models : conn.Models plain) : Agrees conn.writeResets plain.writeResets :=
  models.dispatch .reset "rst_stream" _ (fun _ => rfl) (fun _ => rfl) models.sound.writeResets

theorem writeWindowUpdates (models : conn.Models plain) :
    Agrees conn.writeWindowUpdates plain.writeWindowUpdates := by
  unfold Connection.writeWindowUpdates
  rw [models.config]
  exact models.dispatch .windowUpdate "window_update" _ (fun _ => rfl) (fun _ => rfl)
    models.sound.writeWindowUpdates

/-- Streams outside a list join its queue one after the other. -/
theorem enqueueAll (models : conn.Models plain) (names : conn.store.Names ids keys)
    (distinct : ids.Nodup) (absent : ∀ k ∈ ids, k ∉ plain.lines.get kind) :
    ∃ conn', keys.foldlM (·.enqueue kind) conn = .ok conn' ∧
      conn'.Models (ids.foldl (·.enqueue kind) plain) := by
  induction keys generalizing conn plain ids with
  | nil =>
    cases names
    exact ⟨conn, rfl, models⟩
  | cons key keys ih =>
    rcases names with _ | @⟨id, _, ids, _, bound, names⟩
    obtain ⟨alone, distinct⟩ := List.nodup_cons.1 distinct
    obtain ⟨middle, enqueued, models', -, rewritten⟩ :=
      models.enqueue bound (absent id List.mem_cons_self)
    have names' : middle.store.Names ids keys := Store.Names.congr names fun k _ => by
      rw [Store.key?, Store.key?, rewritten.ids]
    obtain ⟨conn', queued, models''⟩ := ih models' names' distinct fun k member found => by
      rw [Plain.lines_enqueue, if_pos rfl, List.mem_append, List.mem_singleton] at found
      rcases found with before | rfl
      · exact absent k (List.mem_cons_of_mem _ member) before
      · exact alone member
    refine ⟨conn', ?_, models''⟩
    rw [List.foldlM_cons, enqueued]
    exact queued

theorem writeSends (models : conn.Models plain) : Agrees conn.writeSends plain.writeSends := by
  obtain ⟨keys, middle, after, drained, modified, names, written⟩ :=
    models.emptyLine .send Stream.transmitted (fun _ => rfl) (fun _ => rfl)
      models.sound.transmitLine
  let blocked (key : Nat) : Bool := (after.get? key).any (!·.pendingData.isEmpty)
  have same (id : StreamId) (key : Nat) (bound : after.key? id = some key) :
      (plain.emptyLine .send Stream.transmitted).blocked id = blocked key := by
    rw [Plain.blocked, written.tracks.streams_of_key? bound, Option.any_map]
    rfl
  have finished := names.filter _ (!blocked ·) fun id key bound => congrArg not (same id key bound)
  have waiting := names.filter _ blocked same
  obtain ⟨conn', queued, models'⟩ := written.enqueueAll waiting
    ((models.sound.distinct .send).filter _) fun k _ => by
      rw [Plain.emptyLine, Plain.lines_setLine, if_pos rfl]
      exact List.not_mem_nil
  have finishedIds : (keys.filter (!blocked ·)).mapM middle.idOf = _ := written.mapM_idOf finished
  have waitingIds : (keys.filter blocked).mapM middle.idOf = _ := written.mapM_idOf waiting
  refine ⟨conn', ?_, models'⟩
  simp only [Connection.writeSends, drained, modified, Checked.ok_bind]
  rw [finishedIds, waitingIds, Checked.ok_bind, Checked.ok_bind, queued]
  rfl

/-- A stream that is in no list leaves the store. -/
theorem remove (models : conn.Models plain) (bound : conn.store.key? id = some key)
    (present : conn.store.get? key = some stream) (outside : ∀ kind, id ∉ plain.lines.get kind) :
    ∃ after, conn.store.remove id = .ok (some stream, after) ∧
      Models { conn with store := after, openStreams := conn.openStreams - 1 }
        { plain.erase id with
          openStreams := plain.openStreams - 1
          stats := { plain.stats with removes := plain.stats.removes + 1 } } := by
  obtain ⟨after, removed, gone, stats⟩ := models.tracks.settled.remove bound present
  have tracks := models.tracks.removed bound gone outside
  refine ⟨after, removed, { models with
    tracks
    sound := (models.sound.erase outside).of_eq rfl rfl
    named := fun {k at'} found => ?_
    stats := by rw [stats, models.stats]
    openStreams := by rw [models.openStreams] }⟩
  rw [gone.key?] at found
  split at found
  · cases found
  · exact models.named found

theorem reclaimOne (models : conn.Models plain) (id : StreamId) :
    Agrees (conn.reclaimOne id) (plain.reclaimOne id) := by
  have looked := models.look id
  unfold Connection.reclaimOne Plain.reclaimOne Plain.serve
  cases found : plain.streams id with
  | none =>
    have unbound := models.tracks.key?_eq_none found
    have missing : (conn.store.countLookup false).remove id = _ := Store.remove_of_unbound unbound
    simp only [Store.find, unbound] at looked ⊢
    refine ⟨_, ?_, looked⟩
    simp [missing]
  | some stream =>
    obtain ⟨key, old, bound, present, rfl⟩ := models.tracks.exists_get? found
    simp only [Store.find, bound, Option.isSome_some] at looked ⊢
    have read : ((some key).bind (conn.store.countLookup true).get?).any Stream.isQueued =
        old.isQueued := by
      simp [present]
    have flags : old.unlinked.isQueued = old.isQueued := rfl
    rw [read, flags]
    cases queued : old.isQueued with
    | true => exact ⟨_, rfl, looked⟩
    | false =>
      obtain ⟨after, removed, models'⟩ :=
        looked.remove bound present (looked.sound.outside found queued)
      rw [removed]
      exact ⟨_, rfl, models'⟩

theorem reclaim (models : conn.Models plain) : Agrees conn.reclaim plain.reclaim := by
  -- For any ids still to do, as each step leaves another connection to go on from.
  have whole (ids : List StreamId) (events : List Event) :
      Agrees (ids.foldlM Connection.reclaimNext (conn, events))
        (ids.foldl Plain.reclaimNext (plain, events)) := by
    induction ids generalizing conn plain events with
    | nil => exact ⟨conn, rfl, models⟩
    | cons id ids ih =>
      obtain ⟨middle, reclaimed, models'⟩ := models.reclaimOne id
      rw [List.foldlM_cons, List.foldl_cons, Connection.reclaimNext, reclaimed]
      exact ih models' _
  obtain ⟨conn', reclaimed, models'⟩ := whole plain.closing []
  rw [← models.closing] at reclaimed
  refine ⟨{ conn' with closing := conn'.closing.filter conn'.store.contains }, ?_, { models' with
    sound := models'.sound.of_eq rfl rfl
    closing := ?_ }⟩
  · rw [Connection.reclaim, reclaimed, models.closing]
    rfl
  · have bound (id : StreamId) : conn'.store.contains id =
        ((plain.closing.foldl Plain.reclaimNext (plain, [])).1.streams id).isSome := by
      rw [Store.contains_eq_isSome_key?, models'.tracks.key?_isSome]
    rw [models'.closing, funext bound]
    rfl

theorem flush (models : conn.Models plain) : Agrees conn.flush plain.flush := by
  obtain ⟨conn₁, filtered, models₁⟩ := models.filterSends
  obtain ⟨conn₂, evicted, models₂⟩ := models₁.filterWindowUpdates
  obtain ⟨conn₃, resets, models₃⟩ := models₂.writeResets
  obtain ⟨conn₄, updates, models₄⟩ := models₃.writeWindowUpdates
  obtain ⟨conn₅, sends, models₅⟩ := models₄.writeSends
  obtain ⟨conn₆, closed, models₆⟩ := models₅.reclaim
  refine ⟨conn₆, ?_, models₆⟩
  simp only [Connection.flush, filtered, evicted, resets, updates, sends, closed, Checked.ok_bind]
  rfl

/-- The states of the streams of a connection are among the seven. -/
theorem census (models : conn.Models plain) :
    conn.census = .ok (StreamState.all.map fun state =>
      (conn.store.toList.map (·.2.2.state)).count state) := by
  have read := models.tracks.settled.forEach_read (fun states stream => stream.state :: states) []
  have known : (conn.store.toList.map (·.2.2.state)).any (StreamState.all.length ≤ ·.code) =
      false := by
    simp only [List.any_map, List.any_eq_false, Function.comp_apply, decide_eq_true_eq, Nat.not_le]
    rintro ⟨id, key, stream⟩ listed
    obtain ⟨bound, present⟩ := Store.mem_toList_iff.1 listed
    rcases models.state bound present with state | state | state <;> rw [state] <;> decide
  rw [List.foldl_flip_cons_eq_append, List.append_nil, List.map_map] at read
  simp only [Connection.census, read, Checked.ok_bind, List.any_reverse, List.count_reverse,
    Function.comp_def, known]
  rfl

/-- A call succeeds, and does what it does to the plain connection. -/
theorem step (models : conn.Models plain) (call : Call) :
    ∃ answer conn', conn.step call = .ok (answer, conn', (plain.step call).2) ∧
      conn'.Models (plain.step call).1 := by
  cases call with
  | accept id =>
    obtain ⟨conn', accepted, models'⟩ := models.accept id
    refine ⟨.accepted (plain.accept id).1, conn', ?_, models'⟩
    simp [Connection.step, accepted, Plain.step]
  | send id chunk =>
    obtain ⟨conn', served, models'⟩ := models.send id chunk
    exact ⟨.done, conn', by simp [Connection.step, served, Plain.step], models'⟩
  | reset id code =>
    obtain ⟨conn', served, models'⟩ := models.reset id code
    exact ⟨.done, conn', by simp [Connection.step, served, Plain.step], models'⟩
  | consume id count =>
    obtain ⟨conn', served, models'⟩ := models.consume id count
    exact ⟨.done, conn', by simp [Connection.step, served, Plain.step], models'⟩
  | grant id increment =>
    obtain ⟨conn', served, models'⟩ := models.grant id increment
    exact ⟨.done, conn', by simp [Connection.step, served, Plain.step], models'⟩
  | flush =>
    obtain ⟨conn', served, models'⟩ := models.flush
    exact ⟨.done, conn', by simp [Connection.step, served, Plain.step], models'⟩
  | census =>
    exact ⟨.counts _, conn, by simp [Connection.step, models.census, Plain.step]; rfl, models⟩

/-- Calls succeed one after the other, and do what they do to the plain connection. -/
theorem run (models : conn.Models plain) (calls : List Call) :
    Agrees (conn.run calls) (plain.run calls) := by
  induction calls generalizing conn plain with
  | nil => exact ⟨conn, rfl, models⟩
  | cons call rest ih =>
    obtain ⟨answer, middle, stepped, models'⟩ := models.step call
    obtain ⟨conn', ran, models''⟩ := ih models'
    refine ⟨conn', ?_, models''⟩
    simp only [run_cons, stepped, Checked.ok_bind, ran]
    rfl

end Models

end StreamMux.Connection
