import StreamMux.Proofs.Queue.Filter

/-!
# The only queue of a kind

A queue owns its kind in a store when it holds a line and the streams outside the line
have no link of the kind. Any stream outside can be pushed then. The operations on
the queue keep it so, and so do insertions, removals outside the line and changes that
leave the links of the kind alone.
-/

namespace StreamMux.Queue

/-- The queue holds the streams at `keys`, and no other stream has a link of the kind. -/
structure Owns (queue : Queue) (kind : QueueKind) (store : Store) (keys : List Nat) : Prop
    extends Holds queue kind store keys where
  outside : ∀ {key : Nat} {stream : Stream},
    store.get? key = some stream → key ∉ keys → stream.next kind = none

variable {queue : Queue} {kind : QueueKind} {store after : Store} {keys : List Nat} {key : Nat}
  {stream : Stream}

theorem Holds.owns (held : queue.Holds kind store keys)
    (cleared : ∀ k next, k ∉ keys → store.link? kind k = some next → next = none) :
    queue.Owns kind store keys where
  toHolds := held
  outside present absent := cleared _ _ absent (Store.link?_of_get? present kind)

/-- A stream outside the line leads nowhere. -/
theorem Owns.link_eq_none (owns : queue.Owns kind store keys) (absent : key ∉ keys)
    {next : Option Nat} (linked : store.link? kind key = some next) : next = none := by
  obtain ⟨stream, present, rfl⟩ := Option.map_eq_some_iff.1 linked
  exact owns.outside present absent

/-- Only the links of the kind matter. -/
theorem Owns.congr (owns : queue.Owns kind store keys)
    (same : ∀ k, after.link? kind k = store.link? kind k) : queue.Owns kind after keys := by
  refine (owns.toHolds.congr fun k _ => same k).owns fun k next absent linked => ?_
  rw [same] at linked
  exact owns.link_eq_none absent linked

/-- The line of a queue tells where every stream leads. -/
theorem Owns.link?_eq {other : Queue} (owns : queue.Owns kind store keys)
    (owns' : other.Owns kind after keys) (rewritten : store.Rewritten after) (key : Nat) :
    after.link? kind key = store.link? kind key := by
  by_cases member : key ∈ keys
  · exact owns.linked.link_eq owns'.linked member
  · cases found : store.get? key with
    | none => rw [Store.link?, Store.link?, found, rewritten.get?_eq_none found]
    | some stream =>
      obtain ⟨later, present⟩ := rewritten.symm.exists_get? found
      rw [Store.link?_of_get? found, Store.link?_of_get? present, owns.outside found member,
        owns'.outside present member]

/-- Changing a stream but not its link. -/
theorem Owns.put (owns : queue.Owns kind store keys) (present : store.get? key = some stream)
    {new : Stream} (same : new.next kind = stream.next kind) :
    queue.Owns kind (store.put key new) keys := by
  refine owns.congr fun k => ?_
  rw [Store.link?_put present]
  split
  · rename_i here
    rw [here, Store.link?_of_get? present, same]
  · rfl

/-- A stream outside the line is appended. -/
theorem Owns.push (owns : queue.Owns kind store keys) (present : store.get? key = some stream)
    (absent : key ∉ keys) :
    ∃ queue' after, queue.push kind key store = .ok (queue', after) ∧
      queue'.Owns kind after (keys ++ [key]) ∧ store.Relinked kind keys after := by
  obtain ⟨queue', after, pushed, held, relinked⟩ :=
    owns.toHolds.push present (owns.outside present absent) absent
  refine ⟨queue', after, pushed, held.owns fun k next outside linked => ?_, relinked⟩
  have before : k ∉ keys := fun member => outside (List.mem_append_left _ member)
  rw [relinked.link?_eq (.inr before)] at linked
  exact owns.link_eq_none before linked

/-- All streams are taken off. -/
theorem Owns.drain (owns : queue.Owns kind store keys) :
    ∃ after, queue.drain kind store = .ok (keys, after) ∧ empty.Owns kind after [] ∧
      store.Relinked kind keys after := by
  obtain ⟨after, drained, relinked, cleared⟩ := owns.toHolds.drain
  refine ⟨after, drained, (holds_empty kind after).owns fun k next _ linked => ?_, relinked⟩
  by_cases member : k ∈ keys
  · rw [cleared k member] at linked
    exact (Option.some.inj linked).symm
  · rw [relinked.link?_eq (.inr member)] at linked
    exact owns.link_eq_none member linked

/-- The streams for which `drop` holds are taken out, and record it. Other queues see
no change. -/
theorem Owns.evict (owns : queue.Owns kind store keys) (drop : Stream → Bool) :
    ∃ queue' after, queue.evict kind drop store = .ok (queue', after) ∧
      queue'.Owns kind after (keys.filter fun k => !(store.get? k).any drop) ∧
      store.Rewritten after ∧
      (∀ other k, other ≠ kind → after.link? other k = store.link? other k) ∧
      ∀ k, after.unlinked.get? k =
        if k ∈ keys ∧ (store.get? k).any drop then
          (store.unlinked.get? k).map (·.setQueued kind false)
        else store.unlinked.get? k := by
  obtain ⟨queue', judged, after, evicted, filtered, rewritten, streams⟩ := owns.toHolds.evict drop
  have judgedLink (other : QueueKind) (k : Nat) : judged.link? other k = store.link? other k := by
    rw [Store.link?, Store.link?, streams]
    split
    · cases store.get? k with
      | none => rfl
      | some stream => cases dropped : drop stream <;> simp [dropped]
    · rfl
  refine ⟨queue', after, evicted, filtered.held.owns fun k next absent linked => ?_,
    rewritten.trans filtered.relinked.rewritten, fun other k apart => ?_, fun k => ?_⟩
  · by_cases member : k ∈ keys
    · rw [filtered.cleared k member absent] at linked
      exact (Option.some.inj linked).symm
    · rw [filtered.relinked.link?_eq (.inr member), judgedLink] at linked
      exact owns.link_eq_none member linked
  · rw [filtered.relinked.link?_eq (.inl apart), judgedLink]
  · rw [filtered.relinked.unlinked_eq, Store.get?_unlinked, Store.get?_unlinked, streams]
    by_cases member : k ∈ keys
    · cases store.get? k with
      | none => simp
      | some stream =>
        cases dropped : drop stream <;> simp [member, dropped]
        rfl
    · simp [member]

/-- A stream without a link comes into the store. -/
theorem Owns.inserted {id : StreamId} (owns : queue.Owns kind store keys)
    (inserted : store.Inserted id stream key after) (unlinked : stream.next kind = none) :
    queue.Owns kind after keys := by
  refine (owns.toHolds.inserted inserted).owns fun k next absent linked => ?_
  rw [inserted.link?] at linked
  split at linked
  · rw [← Option.some.inj linked, unlinked]
  · exact owns.link_eq_none absent linked

/-- A stream outside the line leaves the store. -/
theorem Owns.removed {id : StreamId} (owns : queue.Owns kind store keys)
    (removed : store.Removed id key after) (absent : key ∉ keys) :
    queue.Owns kind after keys := by
  refine (owns.toHolds.removed removed absent).owns fun k next outside linked => ?_
  rw [removed.link?] at linked
  split at linked
  · cases linked
  · exact owns.link_eq_none outside linked

end StreamMux.Queue
