import StreamMux.Proofs.Connection.Reachable
import StreamMux.Proofs.Store.Change

/-!
# A connection is what it models and where it has its streams

All that the queues do to a store is to rewrite the streams in their slots, and so does a flush that
has no stream to remove (`Connection.kept_of_flush`). A store whose slots and ids are known is
determined by the streams and lines that it tracks (`Store.Tracks.eq_of_rewritten`), links included.
So a call that keeps the slots and does nothing to the plain connection does nothing at all
(`Connection.Models.eq_of_kept`).
-/

namespace StreamMux

namespace Queue

variable {queue queue' : Queue} {kind : QueueKind} {store after : Store}

theorem linksKeep_rewritten (kind : QueueKind) (store : Store) :
    LinksKeep kind store.Rewritten :=
  ⟨fun same modified => same.trans (Store.rewritten_of_modify modified)⟩

theorem rewritten_of_push {key : Nat} (pushed : queue.push kind key store = .ok (queue', after)) :
    store.Rewritten after := (linksKeep_rewritten kind store).push (.refl store) pushed

theorem rewritten_of_drain {keys : List Nat}
    (drained : queue.drain kind store = .ok (keys, after)) : store.Rewritten after :=
  (linksKeep_rewritten kind store).drainWithin (.refl store) drained

/-- Whatever is decided, the streams that are dropped stay in their slots. -/
theorem rewritten_of_evict {drop : Stream → Bool}
    (evicted : queue.evict kind drop store = .ok (queue', after)) : store.Rewritten after := by
  obtain ⟨⟨kept, last, middle⟩, passed, evicted⟩ := Checked.bind_eq_ok_iff.1 evicted
  cases evicted
  have keeps : PassKeeps kind (dropping kind drop) store.Rewritten :=
    ⟨linksKeep_rewritten kind store,
      fun same _ set => same.trans (Store.rewritten_of_modify set)⟩
  exact keeps.retain (.refl store) passed

end Queue

theorem Store.rewritten_of_modifyAll {store after : Store} {keys : List Nat}
    {change : Stream → Stream} (modified : store.modifyAll keys change = .ok after) :
    store.Rewritten after := by
  induction keys generalizing store with
  | nil =>
    cases modified
    exact .refl _
  | cons key keys ih =>
    obtain ⟨middle, first, later⟩ := Checked.bind_eq_ok_iff.1 modified
    exact (rewritten_of_modify first).trans (ih later)

namespace Connection

/-- The streams may be rewritten, but they are in the same slots, and the same ones wait to be
removed. -/
structure Kept (before after : Connection) : Prop where
  store : before.store.Rewritten after.store
  slotIds : after.slotIds = before.slotIds
  closing : after.closing = before.closing

variable {conn middle next : Connection} {kind : QueueKind} {events : List Event}

theorem Kept.refl (conn : Connection) : conn.Kept conn := ⟨.refl _, rfl, rfl⟩

theorem Kept.trans (one : conn.Kept middle) (two : middle.Kept next) : conn.Kept next :=
  ⟨one.store.trans two.store, two.slotIds.trans one.slotIds, two.closing.trans one.closing⟩

theorem kept_of_enqueue {key : Nat} (queued : conn.enqueue kind key = .ok next) :
    conn.Kept next := by
  obtain ⟨flagged, modified, queued⟩ := Checked.bind_eq_ok_iff.1 queued
  obtain ⟨⟨queue, linked⟩, pushed, queued⟩ := Checked.bind_eq_ok_iff.1 queued
  cases queued
  exact ⟨(Store.rewritten_of_modify modified).trans (Queue.rewritten_of_push pushed), rfl, rfl⟩

theorem kept_of_enqueueAll {keys : List Nat}
    (queued : keys.foldlM (·.enqueue kind) conn = .ok next) : conn.Kept next := by
  induction keys generalizing conn with
  | nil =>
    cases queued
    exact .refl _
  | cons key keys ih =>
    obtain ⟨middle, first, later⟩ := Checked.bind_eq_ok_iff.1 queued
    exact (kept_of_enqueue first).trans (ih later)

theorem kept_of_filterSends (filtered : conn.filterSends = .ok (next, events)) :
    conn.Kept next := by
  obtain ⟨⟨queue, store⟩, evicted, filtered⟩ := Checked.bind_eq_ok_iff.1 filtered
  cases filtered
  exact ⟨Queue.rewritten_of_evict evicted, rfl, rfl⟩

theorem kept_of_filterWindowUpdates (filtered : conn.filterWindowUpdates = .ok next) :
    conn.Kept next := by
  obtain ⟨⟨queue, store⟩, evicted, filtered⟩ := Checked.bind_eq_ok_iff.1 filtered
  cases filtered
  exact ⟨Queue.rewritten_of_evict evicted, rfl, rfl⟩

theorem kept_of_drain {keys : List Nat} (drained : conn.drain kind = .ok (keys, next)) :
    conn.Kept next := by
  obtain ⟨⟨keys, store⟩, popped, drained⟩ := Checked.bind_eq_ok_iff.1 drained
  cases drained
  exact ⟨Queue.rewritten_of_drain popped, rfl, rfl⟩

theorem kept_of_dispatch {reason : String} {change : Stream → Stream}
    (dispatched : conn.dispatch kind reason change = .ok (next, events)) : conn.Kept next := by
  obtain ⟨⟨keys, middle⟩, drained, dispatched⟩ := Checked.bind_eq_ok_iff.1 dispatched
  obtain ⟨store, modified, dispatched⟩ := Checked.bind_eq_ok_iff.1 dispatched
  obtain ⟨ids, -, dispatched⟩ := Checked.bind_eq_ok_iff.1 dispatched
  cases dispatched
  exact (kept_of_drain drained).trans ⟨Store.rewritten_of_modifyAll modified, rfl, rfl⟩

theorem kept_of_writeSends (written : conn.writeSends = .ok (next, events)) : conn.Kept next := by
  obtain ⟨⟨keys, middle⟩, drained, written⟩ := Checked.bind_eq_ok_iff.1 written
  obtain ⟨store, modified, written⟩ := Checked.bind_eq_ok_iff.1 written
  obtain ⟨finished, -, written⟩ := Checked.bind_eq_ok_iff.1 written
  obtain ⟨waiting, -, written⟩ := Checked.bind_eq_ok_iff.1 written
  obtain ⟨last, queued, written⟩ := Checked.bind_eq_ok_iff.1 written
  cases written
  have changed : middle.Kept { middle with store } :=
    ⟨Store.rewritten_of_modifyAll modified, rfl, rfl⟩
  exact ((kept_of_drain drained).trans changed).trans (kept_of_enqueueAll queued)

theorem reclaim_of_idle (idle : conn.closing = []) : conn.reclaim = .ok (conn, []) := by
  obtain ⟨config, store, queues, slotIds, closing, cancelled, openStreams⟩ := conn
  cases idle
  rfl

/-- A flush that has no stream to remove leaves every stream in its slot. -/
theorem kept_of_flush (idle : conn.closing = [])
    (flushed : conn.flush = .ok (next, events)) : conn.Kept next := by
  obtain ⟨⟨first, filtered⟩, one, flushed⟩ := Checked.bind_eq_ok_iff.1 flushed
  obtain ⟨second, two, flushed⟩ := Checked.bind_eq_ok_iff.1 flushed
  obtain ⟨⟨third, resets⟩, three, flushed⟩ := Checked.bind_eq_ok_iff.1 flushed
  obtain ⟨⟨fourth, updates⟩, four, flushed⟩ := Checked.bind_eq_ok_iff.1 flushed
  obtain ⟨⟨fifth, sends⟩, five, flushed⟩ := Checked.bind_eq_ok_iff.1 flushed
  have kept : conn.Kept fifth :=
    ((((kept_of_filterSends one).trans (kept_of_filterWindowUpdates two)).trans
      (kept_of_dispatch three)).trans (kept_of_dispatch four)).trans (kept_of_writeSends five)
  obtain ⟨⟨last, closed⟩, six, flushed⟩ := Checked.bind_eq_ok_iff.1 flushed
  rw [reclaim_of_idle (kept.closing.trans idle)] at six
  cases six
  cases flushed
  exact kept

end Connection

namespace Store

variable {store after : Store} {queues queues' : PerQueue Queue}
  {streams : StreamId → Option Stream} {lines : PerQueue (List StreamId)}

/-- Nothing but the streams and the lines of ids that it tracks tells a store from another one with
the same slots. -/
theorem Tracks.eq_of_rewritten (tracks : store.Tracks queues streams lines)
    (tracks' : after.Tracks queues' streams lines) (rewritten : store.Rewritten after) :
    after = store ∧ queues' = queues := by
  have keys (id : StreamId) : after.key? id = store.key? id := by rw [key?, key?, rewritten.ids]
  have same (kind : QueueKind) : queues'.get kind = queues.get kind ∧
      ∀ key, after.link? kind key = store.link? kind key := by
    obtain ⟨line, names, owns⟩ := tracks.owns kind
    obtain ⟨line', names', owns'⟩ := tracks'.owns kind
    have agree : line' = line := names'.unique (names.congr fun id _ => keys id)
    subst agree
    exact ⟨owns'.toHolds.queue_eq owns.toHolds, fun key => owns.link?_eq owns' rewritten key⟩
  have streams (key : Nat) : after.get? key = store.get? key := by
    cases found : store.get? key with
    | none => exact rewritten.get?_eq_none found
    | some stream =>
      obtain ⟨later, present⟩ := rewritten.symm.exists_get? found
      obtain ⟨id, bound⟩ := tracks.settled.exists_key? found
      have before := tracks.streams_of_key? bound
      rw [tracks'.streams_of_key? ((keys id).trans bound), found, present] at before
      rw [present]
      refine congrArg some (Stream.eq_of_unlinked (Option.some.inj before) fun kind => ?_)
      have linked := (same kind).2 key
      rw [link?_of_get? found, link?_of_get? present] at linked
      exact Option.some.inj linked
  refine ⟨?_, PerQueue.ext_get fun kind => (same kind).1⟩
  have slab : after.slab = store.slab := Slab.ext_of_map rewritten.slots streams
  obtain ⟨ids, stats, -⟩ := rewritten
  cases after
  cases store
  cases slab
  cases ids
  cases stats
  rfl

end Store

/-- Whatever keeps the streams in their slots and does nothing to what is modelled does nothing. -/
theorem Connection.Models.eq_of_kept {conn next : Connection} {plain : Plain}
    (models : conn.Models plain) (models' : next.Models plain) (kept : conn.Kept next) :
    next = conn := by
  obtain ⟨store, queues⟩ := models.tracks.eq_of_rewritten models'.tracks kept.store
  have config := models'.config.trans models.config.symm
  have cancelled := models'.cancelled.trans models.cancelled.symm
  have openStreams := models'.openStreams.trans models.openStreams.symm
  obtain ⟨-, slotIds, closing⟩ := kept
  cases next
  cases conn
  cases config
  cases store
  cases queues
  cases slotIds
  cases closing
  cases cancelled
  cases openStreams
  rfl

end StreamMux
