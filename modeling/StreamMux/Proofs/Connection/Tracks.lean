import StreamMux.Proofs.Queue.Sole

/-!
# Stores and queues behind ids and lists

A store and its queues track streams under ids and lists of ids when the streams are the
same but for their links and each queue is the line of its list (`Store.Tracks`). Each
change of a store or of a queue is a change of the streams or of the lists.
-/

namespace StreamMux.Store

variable {store after : Store} {id : StreamId} {key : Nat} {stream : Stream} {ids : List StreamId}
  {keys : List Nat}

/-- The streams are those under the ids but for their links, and each queue is the line
of its list. -/
structure Tracks (store : Store) (queues : PerQueue Queue) (streams : StreamId → Option Stream)
    (lines : PerQueue (List StreamId)) : Prop where
  settled : store.Settled
  streams : ∀ id, streams id = store.unlinked.lookup id
  owns : ∀ kind, ∃ keys, store.Names (lines.get kind) keys ∧
    (queues.get kind).Owns kind store keys

variable {queues queues' : PerQueue Queue} {streams streams' : StreamId → Option Stream}
  {lines lines' : PerQueue (List StreamId)} {kind : QueueKind}

theorem lookup_unlinked (store : Store) (id : StreamId) :
    store.unlinked.lookup id = (store.key? id).bind store.unlinked.get? := rfl

/-- An id has a stream when it is bound to a slot that has it. -/
theorem Tracks.exists_get? (tracks : store.Tracks queues streams lines)
    (found : streams id = some stream) :
    ∃ key old, store.key? id = some key ∧ store.get? key = some old ∧ old.unlinked = stream := by
  rw [tracks.streams, lookup_unlinked] at found
  obtain ⟨key, bound, present⟩ := Option.bind_eq_some_iff.1 found
  rw [get?_unlinked] at present
  obtain ⟨old, present, same⟩ := Option.map_eq_some_iff.1 present
  exact ⟨key, old, bound, present, same⟩

theorem Tracks.streams_of_key? (tracks : store.Tracks queues streams lines)
    (bound : store.key? id = some key) : streams id = (store.get? key).map Stream.unlinked := by
  rw [tracks.streams, lookup_unlinked, bound, Option.bind_some, get?_unlinked]

/-- An id without a stream is unbound. -/
theorem Tracks.key?_eq_none (tracks : store.Tracks queues streams lines)
    (absent : streams id = none) : store.key? id = none := by
  cases bound : store.key? id with
  | none => rfl
  | some key =>
    obtain ⟨stream, present⟩ := tracks.settled.exists_get? bound
    rw [tracks.streams_of_key? bound, present] at absent
    cases absent

theorem Tracks.key?_isSome (tracks : store.Tracks queues streams lines) (id : StreamId) :
    (store.key? id).isSome = (streams id).isSome := by
  cases found : streams id with
  | none => rw [tracks.key?_eq_none found]; rfl
  | some stream =>
    obtain ⟨key, old, bound, -⟩ := tracks.exists_get? found
    rw [bound]
    rfl

theorem Tracks.countLookup (tracks : store.Tracks queues streams lines) (found : Bool) :
    (store.countLookup found).Tracks queues streams lines :=
  ⟨tracks.settled.countLookup found, tracks.streams, fun kind => by
    obtain ⟨keys, names, owns⟩ := tracks.owns kind
    exact ⟨keys, names, owns.congr fun _ => rfl⟩⟩

/-- Any change of the streams in their slots, with what becomes of the queues. -/
theorem Tracks.rewritten (tracks : store.Tracks queues streams lines)
    (rewritten : store.Rewritten after)
    (moved : ∀ id key, store.key? id = some key → streams' id = after.unlinked.get? key)
    (unbound : ∀ id, streams id = none → streams' id = none)
    (owns : ∀ kind, ∃ keys, store.Names (lines'.get kind) keys ∧
      (queues'.get kind).Owns kind after keys) :
    after.Tracks queues' streams' lines' := by
  have keys (id : StreamId) : after.key? id = store.key? id := by rw [key?, key?, rewritten.ids]
  refine ⟨tracks.settled.rewritten rewritten, fun id => ?_, fun kind => ?_⟩
  · rw [lookup_unlinked, keys]
    cases bound : store.key? id with
    | none =>
      refine unbound id ?_
      rw [tracks.streams, lookup_unlinked, bound, Option.bind_none]
    | some key => rw [moved id key bound, Option.bind_some]
  · obtain ⟨line, names, owns⟩ := owns kind
    exact ⟨line, names.congr fun k _ => keys k, owns⟩

/-- A stream changes, but not its links. -/
theorem Tracks.put (tracks : store.Tracks queues streams lines) (bound : store.key? id = some key)
    (present : store.get? key = some stream) (new : Stream) (links : new.links = stream.links) :
    (store.put key new).Tracks queues
      (fun k => if k = id then some new.unlinked else streams k) lines := by
  refine tracks.rewritten (rewritten_put present new) (fun k at' bound' => ?_) (fun k absent => ?_)
    fun kind => ?_
  · rw [get?_unlinked, get?_put present]
    by_cases same : k = id
    · subst same
      rw [bound] at bound'
      cases bound'
      rw [if_pos rfl, if_pos rfl, Option.map_some]
    · have apart : at' ≠ key := by
        rintro rfl
        exact same (tracks.settled.key?_injective bound' bound)
      rw [if_neg same, if_neg apart, tracks.streams_of_key? bound']
  · have apart : k ≠ id := by
      rintro rfl
      rw [tracks.key?_eq_none absent] at bound
      cases bound
    rw [if_neg apart, absent]
  · obtain ⟨keys, names, owns⟩ := tracks.owns kind
    exact ⟨keys, names, owns.put present (by rw [Stream.next, Stream.next, links])⟩

/-- One queue changes, and the other queues do not see it. -/
theorem Tracks.requeue (tracks : store.Tracks queues streams lines)
    (rewritten : store.Rewritten after)
    (moved : ∀ id key, store.key? id = some key → streams' id = after.unlinked.get? key)
    (unbound : ∀ id, streams id = none → streams' id = none) {queue : Queue}
    (names : store.Names ids keys) (owns : queue.Owns kind after keys)
    (others : ∀ other k, other ≠ kind → after.link? other k = store.link? other k) :
    after.Tracks (queues.set kind queue) streams' (lines.set kind ids) := by
  refine tracks.rewritten rewritten moved unbound fun other => ?_
  rw [PerQueue.get_set, PerQueue.get_set]
  by_cases same : other = kind
  · rw [if_pos same, if_pos same]
    subst same
    exact ⟨keys, names, owns⟩
  · rw [if_neg same, if_neg same]
    obtain ⟨keys, names, owns⟩ := tracks.owns other
    exact ⟨keys, names, owns.congr fun k => others other k same⟩

theorem Tracks.relinked (tracks : store.Tracks queues streams lines) {changed : List Nat}
    (relinked : store.Relinked kind changed after) {queue : Queue} (names : store.Names ids keys)
    (owns : queue.Owns kind after keys) :
    after.Tracks (queues.set kind queue) streams (lines.set kind ids) := by
  refine tracks.requeue relinked.rewritten (fun k key bound => ?_) (fun _ absent => absent) names
    owns fun other k apart => relinked.link?_eq (.inl apart)
  rw [relinked.unlinked_eq, get?_unlinked, tracks.streams_of_key? bound]

/-- A stream outside a list is appended to its queue. -/
theorem Tracks.push (tracks : store.Tracks queues streams lines) (bound : store.key? id = some key)
    (absent : id ∉ lines.get kind) :
    ∃ queue after, (queues.get kind).push kind key store = .ok (queue, after) ∧
      store.Rewritten after ∧
      after.Tracks (queues.set kind queue) streams (lines.set kind (lines.get kind ++ [id])) := by
  obtain ⟨stream, present⟩ := tracks.settled.exists_get? bound
  obtain ⟨keys, names, owns⟩ := tracks.owns kind
  have outside : key ∉ keys := fun member =>
    absent ((tracks.settled.mem_iff names bound).1 member)
  obtain ⟨queue, after, pushed, owns', relinked⟩ := owns.push present outside
  exact ⟨queue, after, pushed, relinked.rewritten,
    tracks.relinked relinked (names.append bound) owns'⟩

theorem Tracks.drain (tracks : store.Tracks queues streams lines) (kind : QueueKind) :
    ∃ keys after, (queues.get kind).drain kind store = .ok (keys, after) ∧
      store.Rewritten after ∧ after.Names (lines.get kind) keys ∧
      after.Tracks (queues.set kind .empty) streams (lines.set kind []) := by
  obtain ⟨keys, names, owns⟩ := tracks.owns kind
  obtain ⟨after, drained, owns', relinked⟩ := owns.drain
  refine ⟨keys, after, drained, relinked.rewritten, names.congr fun k _ => ?_,
    tracks.relinked relinked .nil owns'⟩
  rw [key?, key?, relinked.ids]

/-- The streams for which `drop` holds are taken out of a queue, and record it. -/
theorem Tracks.evict (tracks : store.Tracks queues streams lines) {drop : Stream → Bool}
    (blind : ∀ stream : Stream, drop stream.unlinked = drop stream) :
    ∃ queue after, (queues.get kind).evict kind drop store = .ok (queue, after) ∧
      store.Rewritten after ∧
      after.Tracks (queues.set kind queue)
        (fun k => if k ∈ (lines.get kind).filter fun k => (streams k).any drop then
          (streams k).map (·.setQueued kind false) else streams k)
        (lines.set kind ((lines.get kind).filter fun k => !(streams k).any drop)) := by
  obtain ⟨keys, names, owns⟩ := tracks.owns kind
  obtain ⟨queue, after, evicted, owns', rewritten, others, changed⟩ := owns.evict drop
  have same (k : StreamId) (key : Nat) (bound : store.key? k = some key) :
      (streams k).any drop = (store.get? key).any drop := by
    rw [tracks.streams_of_key? bound]
    cases store.get? key with
    | none => rfl
    | some stream => exact blind stream
  refine ⟨queue, after, evicted, rewritten,
    tracks.requeue rewritten (fun k key bound => ?_) (fun k absent => ?_)
      (names.filter _ _ fun k key bound => by rw [same k key bound]) owns' others⟩
  · have dropped := same k key bound
    rw [tracks.streams_of_key? bound] at dropped
    simp only [List.mem_filter, ← tracks.settled.mem_iff names bound, changed, get?_unlinked,
      tracks.streams_of_key? bound, dropped]
  · simp [absent]

/-- The streams of a list of ids change one after the other, but not their links. -/
theorem Tracks.modifyAll (tracks : store.Tracks queues streams lines)
    (names : store.Names ids keys) (distinct : ids.Nodup) {change : Stream → Stream}
    (links : ∀ stream, (change stream).links = stream.links)
    (blind : ∀ stream : Stream, (change stream).unlinked = change stream.unlinked) :
    ∃ after, store.modifyAll keys change = .ok after ∧ store.Rewritten after ∧
      after.Tracks queues
        (fun k => if k ∈ ids then (streams k).map change else streams k) lines := by
  induction keys generalizing store streams ids with
  | nil =>
    cases names
    exact ⟨store, rfl, .refl store, by simpa using tracks⟩
  | cons key keys ih =>
    rcases names with _ | @⟨id, _, ids, _, bound, names⟩
    obtain ⟨alone, distinct⟩ := List.nodup_cons.1 distinct
    obtain ⟨stream, present⟩ := tracks.settled.exists_get? bound
    have one := tracks.put bound present (change stream) (links stream)
    obtain ⟨after, modified, rewritten, tracks'⟩ := ih one names distinct
    refine ⟨after, ?_, (rewritten_put present _).trans rewritten, ?_⟩
    · rw [Store.modifyAll, List.foldlM_cons, modify_of_get? present]
      exact modified
    · convert tracks' using 2 with k
      by_cases same : k = id
      · subst same
        rw [if_pos List.mem_cons_self, if_neg alone, if_pos rfl, tracks.streams_of_key? bound,
          present, Option.map_some, Option.map_some, blind]
      · simp [same]

/-- A stream without links comes under an id that had none. -/
theorem Tracks.inserted (tracks : store.Tracks queues streams lines)
    (unbound : store.key? id = none) (inserted : store.Inserted id stream key after)
    (unlinked : stream.links = .replicate none) :
    after.Tracks queues (fun k => if k = id then some stream else streams k) lines := by
  have erased : stream.unlinked = stream := by rw [Stream.unlinked, ← unlinked]
  refine ⟨inserted.settled, fun k => ?_, fun kind => ?_⟩
  · rw [lookup_unlinked, inserted.key?]
    by_cases same : k = id
    · rw [if_pos same, if_pos same, Option.bind_some, get?_unlinked, inserted.get?, if_pos rfl,
        Option.map_some, erased]
    · rw [if_neg same, if_neg same, tracks.streams, lookup_unlinked]
      cases bound : store.key? k with
      | none => rfl
      | some other =>
        obtain ⟨old, present⟩ := tracks.settled.exists_get? bound
        have apart : other ≠ key := by
          rintro rfl
          rw [inserted.vacant] at present
          cases present
        rw [Option.bind_some, Option.bind_some, get?_unlinked, get?_unlinked, inserted.get?,
          if_neg apart]
  · obtain ⟨keys, names, owns⟩ := tracks.owns kind
    refine ⟨keys, names.congr fun k member => ?_,
      owns.inserted inserted (by rw [Stream.next, unlinked, PerQueue.get_replicate])⟩
    obtain ⟨other, -, bound⟩ := names.exists_key member
    have apart : k ≠ id := by
      rintro rfl
      rw [unbound] at bound
      cases bound
    rw [inserted.key?, if_neg apart]

/-- A stream that is in no list goes. -/
theorem Tracks.removed (tracks : store.Tracks queues streams lines)
    (bound : store.key? id = some key) (removed : store.Removed id key after)
    (outside : ∀ kind, id ∉ lines.get kind) :
    after.Tracks queues (fun k => if k = id then none else streams k) lines := by
  refine ⟨removed.settled, fun k => ?_, fun kind => ?_⟩
  · rw [lookup_unlinked, removed.key?]
    by_cases same : k = id
    · rw [if_pos same, if_pos same, Option.bind_none]
    · rw [if_neg same, if_neg same, tracks.streams, lookup_unlinked]
      cases bound' : store.key? k with
      | none => rfl
      | some other =>
        have apart : other ≠ key := by
          rintro rfl
          exact same (tracks.settled.key?_injective bound' bound)
        rw [Option.bind_some, Option.bind_some, get?_unlinked, get?_unlinked, removed.get?,
          if_neg apart]
  · obtain ⟨keys, names, owns⟩ := tracks.owns kind
    refine ⟨keys, names.congr fun k member => ?_, owns.removed removed fun member =>
      outside kind ((tracks.settled.mem_iff names bound).1 member)⟩
    have apart : k ≠ id := by
      rintro rfl
      exact outside kind member
    rw [removed.key?, if_neg apart]

end StreamMux.Store
