import StreamMux.Proofs.Queue.Chain

/-!
# Draining over links of any shape

Links may lead back, across or out of the store, and then the ends of a queue do not tell how many
streams are still to be popped. The links do: a pop that succeeds empties the queue or clears a link
that was set, and nothing sets it again (`Queue.Pops.account`). So a loop that pops comes to an end,
whatever it does to the streams in between, with an empty queue or with a fault
(`Queue.drain_ends`).
-/

namespace StreamMux

def Slot.isLinked (kind : QueueKind) (slot : Slot Stream) : Bool :=
  slot.value?.any fun stream => (stream.next kind).isSome

/-- The number of occupied slots whose stream has a link of the kind. -/
def Store.linkCount (store : Store) (kind : QueueKind) : Nat :=
  store.slab.slots.countP (Slot.isLinked kind)

namespace Store

variable {store after : Store} {kind : QueueKind} {key : Nat} {stream : Stream}

theorem linkCount_le_slotCount (store : Store) (kind : QueueKind) :
    store.linkCount kind ≤ store.slotCount :=
  Array.countP_le_size

/-- A stream that is replaced by another gives up its link, and the other brings its own. -/
theorem linkCount_put (present : store.get? key = some stream) (new : Stream) (kind : QueueKind) :
    (store.put key new).linkCount kind + (stream.next kind).isSome.toNat =
      store.linkCount kind + (new.next kind).isSome.toNat := by
  have filled := Slab.slots_of_get? present
  obtain ⟨inside, here⟩ := Array.getElem?_eq_some_iff.1 filled
  have counted (value : Stream) :
      (if Slot.isLinked kind (.occupied value) = true then 1 else 0) =
        (value.next kind).isSome.toNat := by
    cases linked : value.next kind <;> simp [Slot.isLinked, linked]
  have least : (stream.next kind).isSome.toNat ≤ store.linkCount kind := by
    cases linked : (stream.next kind).isSome with
    | false => exact Nat.zero_le _
    | true =>
      refine Array.countP_pos_iff.2 ⟨_, Array.mem_of_getElem? filled, ?_⟩
      simpa [Slot.isLinked] using linked
  rw [linkCount, put, Slab.put]
  dsimp only
  rw [Array.setIfInBounds_def, dif_pos inside, Array.countP_set, here, counted, counted]
  rw [linkCount] at least ⊢
  omega

/-- A change that leaves the link leaves the count. -/
theorem linkCount_of_modify {change : Stream → Stream}
    (modified : store.modify key change = .ok after)
    (blind : ∀ stream, (change stream).next kind = stream.next kind) :
    after.linkCount kind = store.linkCount kind := by
  cases present : store.get? key with
  | none =>
    have fetched : store.slab.fetch key = .error .invalidKey := Slab.fetch_eq_error_iff.2 present
    rw [modify, Slab.modify, fetched] at modified
    cases modified
  | some stream =>
    rw [modify_of_get? present] at modified
    cases modified
    have counted := linkCount_put present (change stream) kind
    rw [blind] at counted
    omega

end Store

namespace Queue

variable {queue left : Queue} {kind : QueueKind} {store after : Store} {key : Nat}
  {keys : List Nat}

/-- The most streams that can be popped: one for each link, and one more from a queue that is not
empty. -/
def allowance (queue : Queue) (kind : QueueKind) (store : Store) : Nat :=
  store.linkCount kind + (!queue.isEmpty).toNat

theorem allowance_le (queue : Queue) (kind : QueueKind) (store : Store) :
    queue.allowance kind store ≤ 1 + store.linkCount kind := by
  have one := Bool.toNat_le (!queue.isEmpty)
  rw [allowance]
  omega

/-- The faults that a pop may meet: there is no stream at the head, the last stream has a link, or
one before it has none. -/
def popFaults : List Fault := [.invalidKey, .tailLinked, .linkMissing]

inductive PopOutcome (queue : Queue) (kind : QueueKind) (store : Store) : Prop where
  | nothing (empty : queue = .empty)
  | stream {key : Nat} {left : Queue} {after : Store}
    (popped : queue.pop kind store = .ok (some key, left, after))
    (used : left.allowance kind after + 1 = queue.allowance kind store)
  | fault {fault : Fault} (met : queue.pop kind store = .error fault) (known : fault ∈ popFaults)

/-- A pop that succeeds empties the queue or clears a link. -/
theorem popOutcome (queue : Queue) (kind : QueueKind) (store : Store) :
    queue.PopOutcome kind store := by
  obtain ⟨_ | ⟨head, tail⟩⟩ := queue
  · exact .nothing rfl
  cases present : store.get? head with
  | none =>
    have fetched : store.fetch head = .error .invalidKey := Slab.fetch_eq_error_iff.2 present
    have met : pop ⟨some ⟨head, tail⟩⟩ kind store = .error .invalidKey := by simp [pop, fetched]
    exact .fault met (by decide)
  | some stream =>
    have fetched := Store.fetch_of_get? present
    have modified := Store.modify_of_get? present (·.setNext kind none)
    by_cases same : head = tail
    · subst same
      cases linked : stream.next kind with
      | none => exact .stream (pop_single present linked) (by simp [allowance, isEmpty, empty])
      | some next =>
        have met : pop ⟨some ⟨head, head⟩⟩ kind store = .error .tailLinked := by
          simp [pop, fetched, linked]
        exact .fault met (by decide)
    · cases linked : stream.next kind with
      | none =>
        have met : pop ⟨some ⟨head, tail⟩⟩ kind store = .error .linkMissing := by
          simp [pop, fetched, linked, same, modified]
        exact .fault met (by decide)
      | some next =>
        have popped : pop ⟨some ⟨head, tail⟩⟩ kind store =
            .ok (some head, ⟨some ⟨next, tail⟩⟩, store.put head (stream.setNext kind none)) := by
          simp [pop, fetched, linked, same, modified]
        have cleared : (store.put head (stream.setNext kind none)).linkCount kind + 1 =
            store.linkCount kind := by
          simpa [linked] using Store.linkCount_put present (stream.setNext kind none) kind
        refine .stream popped ?_
        rw [allowance, allowance, ← cleared]
        exact Nat.add_right_comm ..

/-- A pop that succeeds uses up one of what can be popped. -/
theorem allowance_of_pop (popped : queue.pop kind store = .ok (some key, left, after)) :
    left.allowance kind after + 1 = queue.allowance kind store := by
  cases queue.popOutcome kind store with
  | nothing empty =>
    rw [empty, pop_empty] at popped
    cases popped
  | stream popped' used =>
    cases popped.symm.trans popped'
    exact used
  | fault met known =>
    rw [popped] at met
    cases met

/-- A loop pops and changes streams in turn as it likes, but for their links of the kind. The keys
are those of the streams that it popped, in order. -/
inductive Pops (kind : QueueKind) : Queue → Store → List Nat → Queue → Store → Prop where
  | stop {queue : Queue} {store : Store} : Pops kind queue store [] queue store
  | pop {queue left last : Queue} {store middle after : Store} {key : Nat} {keys : List Nat}
    (popped : queue.pop kind store = .ok (some key, left, middle))
    (later : Pops kind left middle keys last after) : Pops kind queue store (key :: keys) last after
  | write {queue last : Queue} {store middle after : Store} {key : Nat} {keys : List Nat}
    {change : Stream → Stream} (blind : ∀ stream, (change stream).next kind = stream.next kind)
    (written : store.modify key change = .ok middle)
    (later : Pops kind queue middle keys last after) : Pops kind queue store keys last after

/-- What was popped and what can still be popped is what could be popped in the beginning. -/
theorem Pops.account (pops : Pops kind queue store keys left after) :
    keys.length + left.allowance kind after = queue.allowance kind store := by
  induction pops with
  | stop => exact Nat.zero_add _
  | pop popped later ih =>
    have used := allowance_of_pop popped
    rw [List.length_cons]
    omega
  | write blind written later ih =>
    rw [ih, allowance, allowance, Store.linkCount_of_modify written blind]

/-- Popping goes on until the queue is empty or a pop fails, and a drain that may pop as many
streams as can be popped does the same. -/
theorem exists_pops (queue : Queue) (kind : QueueKind) (store : Store) :
    ∃ keys left after, Pops kind queue store keys left after ∧
      ((left = .empty ∧ ∀ budget, queue.allowance kind store ≤ budget →
          queue.drainWithin kind budget store = .ok (keys, after)) ∨
        ∃ fault ∈ popFaults, left.pop kind after = .error fault ∧
          ∀ budget, queue.allowance kind store ≤ budget →
            queue.drainWithin kind budget store = .error fault) := by
  -- By induction on what can still be popped, which is one less after each pop.
  induction size : queue.allowance kind store using Nat.strongRecOn
    generalizing queue store with
  | _ size ih =>
    cases queue.popOutcome kind store with
    | nothing empty =>
      subst empty
      exact ⟨[], .empty, store, .stop, .inl ⟨rfl, fun budget _ => drainWithin_empty ..⟩⟩
    | @stream key left middle popped used =>
      obtain ⟨keys, last, after, pops, ends⟩ := ih _ (by omega) left middle rfl
      refine ⟨key :: keys, last, after, .pop popped pops, ?_⟩
      rcases ends with ⟨empty, drained⟩ | ⟨fault, known, met, drained⟩
      · refine .inl ⟨empty, fun budget enough => ?_⟩
        obtain ⟨budget, rfl⟩ := Nat.exists_eq_add_one.2 (show 0 < budget by omega)
        have rest := drained budget (by omega)
        simp [drainWithin, popped, rest]
      · refine .inr ⟨fault, known, met, fun budget enough => ?_⟩
        obtain ⟨budget, rfl⟩ := Nat.exists_eq_add_one.2 (show 0 < budget by omega)
        have rest := drained budget (by omega)
        simp [drainWithin, popped, rest]
    | @fault fault met known =>
      refine ⟨[], queue, store, .stop, .inr ⟨fault, known, met, fun budget enough => ?_⟩⟩
      have holds : queue.isEmpty = false := by
        rw [Bool.eq_false_iff, ne_eq, isEmpty_iff]
        rintro rfl
        rw [pop_empty] at met
        cases met
      have some : 0 < queue.allowance kind store := by simp [allowance, holds]
      obtain ⟨budget, rfl⟩ := Nat.exists_eq_add_one.2 (show 0 < budget by omega)
      simp [drainWithin, met]

/-- Whatever the ends of a queue and the links in the store are, a loop pops at most one stream more
than there are links of the kind, whatever else it does to the streams. Popping without a break ends
with an empty queue or with a fault, and a drain that may pop so many streams, or any number beyond
that, finds this end. -/
theorem drain_ends (queue : Queue) (kind : QueueKind) (store : Store) :
    (∀ keys left after, Pops kind queue store keys left after →
      keys.length ≤ 1 + store.linkCount kind) ∧
    (∃ keys left after, Pops kind queue store keys left after ∧
      ((left = .empty ∧ queue.drain kind store = .ok (keys, after)) ∨
        ∃ fault ∈ popFaults, left.pop kind after = .error fault ∧
          queue.drain kind store = .error fault)) ∧
    ∀ budget, 1 + store.linkCount kind ≤ budget →
      queue.drainWithin kind budget store = queue.drain kind store := by
  have most := queue.allowance_le kind store
  have slots : queue.allowance kind store ≤ store.slotCount + 1 := by
    have links := store.linkCount_le_slotCount kind
    omega
  obtain ⟨keys, left, after, pops, ends⟩ := queue.exists_pops kind store
  refine ⟨fun keys left after pops => ?_, ⟨keys, left, after, pops, ?_⟩, fun budget enough => ?_⟩
  · have account := pops.account
    omega
  · rcases ends with ⟨empty, drained⟩ | ⟨fault, known, met, drained⟩
    · exact .inl ⟨empty, drained _ slots⟩
    · exact .inr ⟨fault, known, met, drained _ slots⟩
  · have within : queue.allowance kind store ≤ budget := Nat.le_trans most enough
    rcases ends with ⟨-, drained⟩ | ⟨fault, -, -, drained⟩
    · exact (drained budget within).trans (drained _ slots).symm
    · exact (drained budget within).trans (drained _ slots).symm

/-- Two streams that are linked to each other are popped once each, although the queue never comes
to its tail. -/
example :
    let linked (next : Nat) : Slot Stream := .occupied (({} : Stream).setNext .send (some next))
    let store : Store := { slab := { slots := #[linked 1, linked 0], size := 2, vacantKey := 2 } }
    (⟨some ⟨0, 7⟩⟩ : Queue).drain .send store = .error .linkMissing := rfl

end Queue

end StreamMux
