import StreamMux.Proofs.Store.Insertion
import StreamMux.Queue.Drain

/-!
# Queues as chains of links

A queue holds the keys of a line when its ends are the first and last of them and
the links of its kind lead from each to the next. Pushing appends to the line and
popping takes its first key (`Queue.Holds.push`, `Queue.Holds.pop`). Both change
links of the line only, so a queue of another kind, or one with other streams, holds
what it held (`Queue.Holds.relinked`).
-/

namespace StreamMux

/-- The link of a stream in the queues of one kind, if there is a stream. -/
def Store.link? (store : Store) (kind : QueueKind) (key : Nat) : Option (Option Nat) :=
  (store.get? key).map (·.next kind)

/-- From `first` on, links lead through `keys`, and from the last of them to `stop`. -/
def Chain (link : Nat → Option (Option Nat)) : Option Nat → List Nat → Option Nat → Prop
  | first, [], stop => first = stop
  | first, key :: rest, stop =>
    first = some key ∧ ∃ next, link key = some next ∧ Chain link next rest stop

namespace Chain

variable {link link' : Nat → Option (Option Nat)} {first stop : Option Nat} {keys : List Nat}

theorem append_iff {rest : List Nat} :
    Chain link first (keys ++ rest) stop ↔
      ∃ middle, Chain link first keys middle ∧ Chain link middle rest stop := by
  induction keys generalizing first with
  | nil => simp [Chain]
  | cons key keys ih =>
    simp only [List.cons_append, Chain, ih]
    constructor
    · rintro ⟨start, next, linked, middle, front, back⟩
      exact ⟨middle, ⟨start, next, linked, front⟩, back⟩
    · rintro ⟨middle, ⟨start, next, linked, front⟩, back⟩
      exact ⟨start, next, linked, middle, front, back⟩

/-- A chain depends on the links of its own keys only. -/
theorem congr (chain : Chain link first keys stop) (same : ∀ k ∈ keys, link' k = link k) :
    Chain link' first keys stop := by
  induction keys generalizing first with
  | nil => exact chain
  | cons key keys ih =>
    obtain ⟨start, next, linked, following⟩ := chain
    refine ⟨start, next, ?_, ih following fun k member => same k (List.mem_cons_of_mem _ member)⟩
    rw [same key List.mem_cons_self, linked]

theorem exists_link (chain : Chain link first keys stop) {k : Nat} (member : k ∈ keys) :
    ∃ next, link k = some next := by
  induction keys generalizing first with
  | nil => cases member
  | cons key keys ih =>
    obtain ⟨-, next, linked, following⟩ := chain
    rcases List.mem_cons.1 member with rfl | later
    · exact ⟨next, linked⟩
    · exact ih following later

theorem first_eq_head? (chain : Chain link first keys none) : first = keys.head? := by
  cases keys with
  | nil => exact chain
  | cons key keys => exact chain.1

/-- Links lead one way only: two chains from one key to the end are the same. -/
theorem unique {others : List Nat} (chain : Chain link first keys none)
    (other : Chain link first others none) : keys = others := by
  induction keys generalizing first others with
  | nil =>
    have ends : first = none := chain
    cases others with
    | nil => rfl
    | cons key others =>
      rw [ends] at other
      cases other.1
  | cons key keys ih =>
    obtain ⟨start, next, linked, following⟩ := chain
    cases others with
    | nil =>
      have ends : first = none := other
      rw [ends] at start
      cases start
    | cons key' others =>
      obtain ⟨start', next', linked', following'⟩ := other
      rw [start] at start'
      cases start'
      rw [linked] at linked'
      cases linked'
      rw [ih following following']

/-- Where a key leads is a matter of the keys after it. -/
theorem link_eq {first' : Option Nat} {key : Nat} (chain : Chain link first keys none)
    (other : Chain link' first' keys none) (member : key ∈ keys) : link' key = link key := by
  induction keys generalizing first first' with
  | nil => cases member
  | cons start rest ih =>
    obtain ⟨-, next, linked, following⟩ := chain
    obtain ⟨-, next', linked', following'⟩ := other
    rcases List.mem_cons.1 member with rfl | later
    · rw [linked, linked', following.first_eq_head?, following'.first_eq_head?]
    · exact ih following following' later

/-- A chain that comes to an end passes no key twice. -/
theorem nodup (chain : Chain link first keys none) : keys.Nodup := by
  induction keys generalizing first with
  | nil => exact List.nodup_nil
  | cons key keys ih =>
    obtain ⟨start, next, linked, following⟩ := chain
    refine List.nodup_cons.2 ⟨fun member => ?_, ih following⟩
    -- From the second visit on, the chain would go through all its keys again.
    obtain ⟨front, back, split⟩ := List.append_of_mem member
    have whole := following
    rw [split] at whole
    obtain ⟨middle, -, again⟩ := append_iff.1 whole
    obtain ⟨-, next', linked', tail⟩ := again
    rw [linked] at linked'
    cases linked'
    have same := congrArg List.length (split ▸ unique following tail)
    simp only [List.length_append, List.length_cons] at same
    omega

/-- Setting the last link of a chain makes the chain lead there. -/
theorem relink_last {last : Nat} {new : Option Nat} (chain : Chain link first (keys ++ [last]) stop)
    (set : link' last = some new) (same : ∀ k ∈ keys, link' k = link k) :
    Chain link' first (keys ++ [last]) new := by
  obtain ⟨middle, front, start, -⟩ := append_iff.1 chain
  exact append_iff.2 ⟨middle, front.congr same, start, new, set, rfl⟩

end Chain

def Stream.unlinked (stream : Stream) : Stream := { stream with links := .replicate none }

theorem Stream.unlinked_eq_self {stream : Stream} (free : ∀ kind, stream.next kind = none) :
    stream.unlinked = stream := by
  have links : stream.links = .replicate none := by
    apply PerQueue.ext_get
    intro kind
    rw [PerQueue.get_replicate]
    exact free kind
  rw [unlinked, ← links]

/-- Streams that are the same without their links differ in a link, if at all. -/
theorem Stream.eq_of_unlinked {stream other : Stream} (same : stream.unlinked = other.unlinked)
    (links : ∀ kind, stream.next kind = other.next kind) : stream = other := by
  have linked : stream.links = other.links := PerQueue.ext_get links
  calc stream
    _ = { stream.unlinked with links := stream.links } := rfl
    _ = { other.unlinked with links := other.links } := by rw [same, linked]

namespace Store

def unlinked (store : Store) : Store := { store with slab := store.slab.map Stream.unlinked }

theorem get?_unlinked (store : Store) (key : Nat) :
    store.unlinked.get? key = (store.get? key).map Stream.unlinked :=
  Slab.get?_map ..

/-- Nothing differs but links of one kind, in the streams at `keys`. -/
structure Relinked (kind : QueueKind) (keys : List Nat) (before after : Store) : Prop where
  ids : after.ids = before.ids
  stats : after.stats = before.stats
  streams : after.slab.map (·.setNext kind none) = before.slab.map (·.setNext kind none)
  frame : ∀ k, k ∉ keys → after.get? k = before.get? k

variable {store after : Store} {kind : QueueKind} {keys : List Nat} {key : Nat} {stream : Stream}

theorem link?_of_get? (present : store.get? key = some stream) (kind : QueueKind) :
    store.link? kind key = some (stream.next kind) := by
  rw [link?, present, Option.map_some]

theorem link?_put (present : store.get? key = some stream) (new : Stream) (kind : QueueKind)
    (k : Nat) :
    (store.put key new).link? kind k =
      if k = key then some (new.next kind) else store.link? kind k := by
  rw [link?, get?_put present]
  split <;> rfl

theorem link?_put_setNext (present : store.get? key = some stream) (kind : QueueKind)
    (next : Option Nat) (k : Nat) :
    (store.put key (stream.setNext kind next)).link? kind k =
      if k = key then some next else store.link? kind k := by
  rw [link?_put present, Stream.next_setNext, if_pos rfl]

theorem Relinked.refl (kind : QueueKind) (keys : List Nat) (store : Store) :
    Relinked kind keys store store := ⟨rfl, rfl, rfl, fun _ _ => rfl⟩

theorem Relinked.trans {middle : Store} {more : List Nat} (one : Relinked kind keys store middle)
    (two : Relinked kind more middle after) : Relinked kind (keys ++ more) store after where
  ids := two.ids.trans one.ids
  stats := two.stats.trans one.stats
  streams := two.streams.trans one.streams
  frame k outside := by
    rw [List.mem_append, not_or] at outside
    rw [two.frame k outside.2, one.frame k outside.1]

theorem Relinked.mono {more : List Nat} (same : Relinked kind keys store after)
    (sub : keys ⊆ more) : Relinked kind more store after :=
  ⟨same.ids, same.stats, same.streams,
    fun k outside => same.frame k fun member => outside (sub member)⟩

/-- Setting a link. -/
theorem relinked_put (present : store.get? key = some stream) (next : Option Nat) :
    Relinked kind [key] store (store.put key (stream.setNext kind next)) where
  ids := rfl
  stats := rfl
  streams := Slab.map_put_of_eq present (by cases kind <;> rfl)
  frame k outside := by
    rw [get?_put present, if_neg (by simpa using outside)]

/-- What a stream is like after links of one kind were changed. -/
theorem Relinked.get? (same : Relinked kind keys store after)
    (present : store.get? key = some stream) :
    ∃ next, after.get? key = some (stream.setNext kind next) := by
  have image := congrArg (fun slab => slab.get? key) same.streams
  have before : store.slab.get? key = some stream := present
  simp only [Slab.get?_map, before, Option.map_some] at image
  obtain ⟨new, found, erased⟩ := Option.map_eq_some_iff.1 image
  refine ⟨new.next kind, found.trans (congrArg some ?_)⟩
  calc
    new = (new.setNext kind none).setNext kind (new.next kind) := by simp
    _ = (stream.setNext kind none).setNext kind (new.next kind) := by rw [erased]
    _ = stream.setNext kind (new.next kind) := by simp

theorem Relinked.rewritten (same : Relinked kind keys store after) : Rewritten store after where
  ids := same.ids
  stats := same.stats
  slots := by
    have image := congrArg (Slab.map fun _ => ()) same.streams
    rwa [Slab.map_map, Slab.map_map] at image

/-- But for their links, the streams are as they were. -/
theorem Relinked.unlinked_eq (same : Relinked kind keys store after) :
    after.unlinked = store.unlinked := by
  have erased (slab : Slab Stream) :
      (slab.map (·.setNext kind none)).map Stream.unlinked = slab.map Stream.unlinked :=
    Slab.map_map ..
  have image := congrArg (Slab.map Stream.unlinked) same.streams
  rw [erased, erased] at image
  rw [unlinked, unlinked, same.ids, same.stats, image]

/-- Links of another kind stay, and so do those of streams outside the line. -/
theorem Relinked.link?_eq (same : Relinked kind keys store after) {other : QueueKind} {k : Nat}
    (apart : other ≠ kind ∨ k ∉ keys) : after.link? other k = store.link? other k := by
  rcases apart with different | outside
  · cases found : store.get? k with
    | none =>
      rw [link?, link?, found, same.rewritten.get?_eq_none found]
    | some stream =>
      obtain ⟨next, present⟩ := same.get? found
      rw [link?_of_get? found, link?_of_get? present, Stream.next_setNext, if_neg different]
  · rw [link?, link?, same.frame k outside]

/-- Streams that are there are no more than the slots. -/
theorem length_le_of_links (distinct : keys.Nodup)
    (linked : ∀ k ∈ keys, ∃ next, store.link? kind k = some next) :
    keys.length ≤ store.slotCount := by
  have within : keys ⊆ List.range store.slotCount := by
    intro k member
    obtain ⟨next, linked⟩ := linked k member
    obtain ⟨stream, present, -⟩ := Option.map_eq_some_iff.1 linked
    exact List.mem_range.2 (Slab.lt_size_of_get? present)
  simpa using (List.subperm_of_subset distinct within).length_le

theorem Inserted.link? {id : StreamId} (inserted : store.Inserted id stream key after)
    (kind : QueueKind) (k : Nat) :
    after.link? kind k = if k = key then some (stream.next kind) else store.link? kind k := by
  rw [Store.link?, inserted.get?]
  split <;> rfl

theorem Removed.link? {id : StreamId} (removed : store.Removed id key after) (kind : QueueKind)
    (k : Nat) : after.link? kind k = if k = key then none else store.link? kind k := by
  rw [Store.link?, removed.get?]
  split <;> rfl

end Store

namespace Queue

/-- The queue is the line of the streams at `keys`, in this order. -/
structure Holds (queue : Queue) (kind : QueueKind) (store : Store) (keys : List Nat) : Prop where
  head : queue.head? = keys.head?
  tail : queue.tail? = keys.getLast?
  linked : Chain (store.link? kind) queue.head? keys none
  nodup : keys.Nodup

variable {queue : Queue} {kind : QueueKind} {store after : Store} {keys : List Nat} {key : Nat}
  {stream : Stream}

theorem holds_empty (kind : QueueKind) (store : Store) : empty.Holds kind store [] :=
  ⟨rfl, rfl, rfl, List.nodup_nil⟩

/-- The ends of a chain that comes to an end make a queue. -/
theorem holds_of_chain {first last : Nat}
    (linked : Chain (store.link? kind) (some first) keys none)
    (tail : keys.getLast? = some last) : (⟨some ⟨first, last⟩⟩ : Queue).Holds kind store keys :=
  ⟨linked.first_eq_head?, tail.symm, linked, linked.nodup⟩

theorem Holds.eq_empty (held : queue.Holds kind store []) : queue = empty := by
  obtain ⟨ends⟩ := queue
  cases ends with
  | none => rfl
  | some ends => cases held.head

theorem ends_eq {first last : Nat} (head : queue.head? = some first)
    (tail : queue.tail? = some last) : queue.ends = some ⟨first, last⟩ := by
  obtain ⟨ends⟩ := queue
  cases ends with
  | none => cases head
  | some ends =>
    obtain ⟨first', last'⟩ := ends
    cases head
    cases tail
    rfl

/-- A line has one queue that holds it. -/
theorem Holds.queue_eq {other : Queue} (held : queue.Holds kind store keys)
    (held' : other.Holds kind after keys) : queue = other := by
  have head := held.head.trans held'.head.symm
  have tail := held.tail.trans held'.tail.symm
  obtain ⟨_ | ends⟩ := queue
  · obtain ⟨_ | ends⟩ := other
    · rfl
    · cases head
  · rw [show other = ⟨some ends⟩ from congrArg Queue.mk (ends_eq head.symm tail.symm)]

/-- A queue holds streams of the store only. -/
theorem Holds.exists_get? (held : queue.Holds kind store keys) (member : key ∈ keys) :
    ∃ stream, store.get? key = some stream := by
  obtain ⟨next, linked⟩ := held.linked.exists_link member
  obtain ⟨stream, present, -⟩ := Option.map_eq_some_iff.1 linked
  exact ⟨stream, present⟩

/-- A queue holds what it held when the links of its streams are as they were. -/
theorem Holds.congr (held : queue.Holds kind store keys)
    (same : ∀ k ∈ keys, after.link? kind k = store.link? kind k) :
    queue.Holds kind after keys :=
  ⟨held.head, held.tail, held.linked.congr same, held.nodup⟩

/-- A queue does not see links of another kind, or links of other streams. -/
theorem Holds.relinked {other : QueueKind} {changed : List Nat}
    (held : queue.Holds other store keys) (same : store.Relinked kind changed after)
    (apart : other ≠ kind ∨ keys.Disjoint changed) : queue.Holds other after keys :=
  held.congr fun _ member => same.link?_eq (apart.imp_right fun disjoint => disjoint member)

/-- A queue does not see a new stream. -/
theorem Holds.inserted {id : StreamId} (held : queue.Holds kind store keys)
    (inserted : store.Inserted id stream key after) : queue.Holds kind after keys := by
  refine held.congr fun k member => ?_
  have apart : k ≠ key := by
    rintro rfl
    obtain ⟨old, present⟩ := held.exists_get? member
    rw [inserted.vacant] at present
    cases present
  rw [inserted.link?, if_neg apart]

/-- A queue does not see that a stream goes that it does not hold. -/
theorem Holds.removed {id : StreamId} (held : queue.Holds kind store keys)
    (removed : store.Removed id key after) (absent : key ∉ keys) :
    queue.Holds kind after keys := by
  refine held.congr fun k member => ?_
  have apart : k ≠ key := by
    rintro rfl
    exact absent member
  rw [removed.link?, if_neg apart]

/-- A line is no longer than the slots are many. -/
theorem Holds.length_le (held : queue.Holds kind store keys) : keys.length ≤ store.slotCount :=
  Store.length_le_of_links held.nodup fun _ member => held.linked.exists_link member

end Queue

end StreamMux
