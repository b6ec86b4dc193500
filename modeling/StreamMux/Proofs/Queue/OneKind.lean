import StreamMux.Proofs.Queue.Fifo

/-!
# Links of one kind

A store may be seen with links of one kind only (`Store.only`), or without them (`Store.without`).
Seen through links of its own kind an operation on a queue is the same operation, faults included
(`Queue.push_only`, `Queue.pop_only`, `Queue.retain_only`); seen without them it does nothing
(`Queue.without_of_push` and the lemmas next to it). Neither asks that the links make sense.
-/

namespace StreamMux

variable {kind other : QueueKind}

namespace Stream

def only (kind : QueueKind) (stream : Stream) : Stream :=
  { stream with links := (PerQueue.replicate none).set kind (stream.next kind) }

@[simp] theorem next_only (kind : QueueKind) (stream : Stream) :
    (stream.only kind).next kind = stream.next kind := PerQueue.get_set_self ..

@[simp] theorem only_setNext (kind : QueueKind) (stream : Stream) (next : Option Nat) :
    (stream.setNext kind next).only kind = (stream.only kind).setNext kind next := by
  cases kind <;> rfl

/-- A link of another kind does not show. -/
theorem only_setNext_of_ne (apart : other ≠ kind) (stream : Stream) (next : Option Nat) :
    (stream.setNext other next).only kind = stream.only kind := by
  rw [only, next_setNext, if_neg (Ne.symm apart)]
  rfl

end Stream

namespace Store

variable {store after : Store} {key : Nat}

def only (kind : QueueKind) (store : Store) : Store :=
  { store with slab := store.slab.map (Stream.only kind) }

def without (kind : QueueKind) (store : Store) : Store :=
  { store with slab := store.slab.map (·.setNext kind none) }

@[simp] theorem slotCount_only (kind : QueueKind) (store : Store) :
    (store.only kind).slotCount = store.slotCount := Array.size_map ..

theorem fetch_only (kind : QueueKind) (store : Store) (key : Nat) :
    (store.only kind).fetch key = Stream.only kind <$> store.fetch key := Slab.fetch_map ..

theorem modify_only {change image : Stream → Stream}
    (same : ∀ stream, (change stream).only kind = image (stream.only kind)) (store : Store)
    (key : Nat) : (store.only kind).modify key image = only kind <$> store.modify key change := by
  have slab : (store.only kind).slab.modify key image = _ := Slab.modify_map same store.slab key
  exact Checked.bind_eq_map_bind slab fun _ => by rfl

theorem modify_setNext_only (store : Store) (key : Nat) (next : Option Nat) :
    (store.only kind).modify key (·.setNext kind next) =
      only kind <$> store.modify key (·.setNext kind next) :=
  modify_only (fun stream => stream.only_setNext kind next) store key

theorem set_only (kind : QueueKind) (store : Store) (key : Nat) (stream : Stream) :
    (store.only kind).set key (stream.only kind) = only kind <$> store.set key stream :=
  @modify_only kind (fun _ => stream) (fun _ => stream.only kind) (fun _ => rfl) store key

theorem insert_only (kind : QueueKind) (store : Store) (name : StreamId) (stream : Stream) :
    (store.only kind).insert name (stream.only kind) =
      Prod.map id (only kind) <$> store.insert name stream := by
  have slab : (store.only kind).slab.insert (stream.only kind) = _ :=
    Slab.insert_map (Stream.only kind) store.slab stream
  refine Checked.bind_eq_map_bind slab fun placed => ?_
  have known : (store.only kind).contains name = store.contains name := rfl
  dsimp only [Prod.map]
  rw [known]
  cases store.contains name <;> rfl

theorem remove_only (kind : QueueKind) (store : Store) (id : StreamId) :
    (store.only kind).remove id =
      Prod.map (Option.map (Stream.only kind)) (only kind) <$> store.remove id := by
  have bound : (store.only kind).key? id = store.key? id := rfl
  rw [remove, remove, bound]
  cases store.key? id with
  | none => rfl
  | some key =>
    have slab : (store.only kind).slab.remove key = _ :=
      Slab.remove_map (Stream.only kind) store.slab key
    exact Checked.bind_eq_map_bind slab fun _ => by rfl

/-- A change of a link does not show in a store without links of the kind. -/
theorem without_of_modify {next : Option Nat}
    (done : store.modify key (·.setNext kind next) = .ok after) :
    after.without kind = store.without kind := by
  obtain ⟨stream, fetched, -⟩ : ∃ stream, store.fetch key = .ok stream ∧ True := by
    cases fetched : store.fetch key with
    | error fault =>
      rw [fetch] at fetched
      simp [modify, Slab.modify, fetched] at done
    | ok stream => exact ⟨stream, rfl, trivial⟩
  have present := fetch_eq_ok_iff.1 fetched
  rw [modify_of_get? present] at done
  cases done
  rw [without, without, (relinked_put present next).streams]
  rfl

/-- What does not show without links of one kind shows in no link of another kind. -/
theorem only_of_without (apart : other ≠ kind) (same : after.without other = store.without other) :
    after.only kind = store.only kind := by
  have through (store : Store) : (store.without other).only kind = store.only kind := by
    rw [only, without, Slab.map_map, only]
    congr 2
    funext stream
    exact stream.only_setNext_of_ne apart none
  rw [← through after, same, through]

theorem link?_only (kind : QueueKind) (store : Store) (key : Nat) :
    (store.only kind).link? kind key = store.link? kind key := by
  rw [link?, link?, get?, only, Slab.get?_map, Option.map_map]
  congr 1
  funext stream
  exact stream.next_only kind

theorem unlinked_only (kind : QueueKind) (store : Store) :
    (store.only kind).unlinked = store.unlinked := by
  rw [unlinked, only, Slab.map_map]
  rfl

end Store

namespace Queue

variable {σ : Type} {queue left : Queue} {store after : Store} {key : Nat}

/-- The decisions depend on anything but links, and they change nothing. -/
structure OnlyReads (judge : σ → Nat → Stream → Verdict σ) : Prop where
  blind : BlindToLinks judge
  pure : ∀ state key stream, (judge state key stream).stream = stream

theorem OnlyReads.recorded {judge : σ → Nat → Stream → Verdict σ} (reads : OnlyReads judge) :
    OnlyReads (Queue.recorded judge) :=
  ⟨reads.blind.recorded, fun state key stream => reads.pure state.1 key stream⟩

/-- A decision is the same for a stream with links of one kind only. -/
theorem OnlyReads.judge_only {judge : σ → Nat → Stream → Verdict σ} (reads : OnlyReads judge)
    (state : σ) (key : Nat) (stream : Stream) :
    judge state key (stream.only kind) =
      { judge state key stream with stream := stream.only kind } := by
  rw [Stream.only, reads.blind, reads.pure]

theorem push_only (queue : Queue) (kind : QueueKind) (key : Nat) (store : Store) :
    queue.push kind key (store.only kind) =
      Prod.map id (Store.only kind) <$> queue.push kind key store := by
  refine Checked.bind_eq_map_bind (store.fetch_only kind key) fun stream => ?_
  rw [Stream.next_only]
  cases (stream.next kind).isSome with
  | true => rfl
  | false =>
    cases queue.ends with
    | none => rfl
    | some ends =>
      exact Checked.bind_eq_map_bind (store.modify_setNext_only ends.tail (some key))
        fun _ => by rfl

theorem pop_only (queue : Queue) (kind : QueueKind) (store : Store) :
    queue.pop kind (store.only kind) =
      Prod.map id (Prod.map id (Store.only kind)) <$> queue.pop kind store := by
  rw [pop, pop]
  cases queue.ends with
  | none => rfl
  | some ends =>
    refine Checked.bind_eq_map_bind (store.fetch_only kind ends.head) fun stream => ?_
    dsimp only
    rw [Stream.next_only]
    split
    · cases (stream.next kind).isSome <;> rfl
    · refine Checked.bind_eq_map_bind (store.modify_setNext_only ends.head none) fun store => ?_
      cases stream.next kind <;> rfl

theorem drainWithin_only (kind : QueueKind) (budget : Nat) (queue : Queue) (store : Store) :
    drainWithin kind budget queue (store.only kind) =
      Prod.map id (Store.only kind) <$> drainWithin kind budget queue store := by
  induction budget generalizing queue store with
  | zero =>
    rw [drainWithin, drainWithin]
    cases queue.isEmpty <;> rfl
  | succ budget ih =>
    refine Checked.bind_eq_map_bind (queue.pop_only kind store) fun popped => ?_
    obtain ⟨key, queue, store⟩ := popped
    cases key with
    | none => rfl
    | some key => exact Checked.bind_eq_map_bind (ih queue store) fun _ => by rfl

theorem drain_only (queue : Queue) (kind : QueueKind) (store : Store) :
    queue.drain kind (store.only kind) =
      Prod.map id (Store.only kind) <$> queue.drain kind store := by
  rw [drain, Store.slotCount_only, drainWithin_only, drain]

theorem retainFrom_only {judge : σ → Nat → Stream → Verdict σ} (reads : OnlyReads judge)
    (kind : QueueKind) (budget : Nat) (ends : Ends) (previous : Option Nat) (current : Nat)
    (state : σ) (store : Store) :
    retainFrom kind judge budget ends previous current state (store.only kind) =
      Prod.map id (Prod.map id (Store.only kind)) <$>
        retainFrom kind judge budget ends previous current state store := by
  induction budget generalizing ends previous current state store with
  | zero => rfl
  | succ budget ih =>
    refine Checked.bind_eq_map_bind (store.fetch_only kind current) fun stream => ?_
    have pure := reads.pure state current stream
    rw [reads.judge_only]
    generalize judge state current stream = verdict at pure ⊢
    obtain ⟨keep, written, state⟩ := verdict
    cases pure
    refine Checked.bind_eq_map_bind (store.set_only kind current written) fun store => ?_
    rw [Stream.next_only]
    cases written.next kind with
    | none =>
      cases current != ends.tail with
      | true => rfl
      | false =>
        cases keep with
        | true => rfl
        | false =>
          refine Checked.bind_eq_map_bind (store.modify_setNext_only current none) fun store => ?_
          cases previous with
          | none => rfl
          | some previous =>
            exact Checked.bind_eq_map_bind (store.modify_setNext_only previous none) fun _ => by rfl
    | some next =>
      cases keep with
      | true => exact ih ..
      | false =>
        refine Checked.bind_eq_map_bind (store.modify_setNext_only current none) fun store => ?_
        cases previous with
        | none => exact ih ..
        | some previous =>
          exact Checked.bind_eq_map_bind (store.modify_setNext_only previous (some next))
            fun store => ih ..

theorem retain_only {judge : σ → Nat → Stream → Verdict σ} (reads : OnlyReads judge)
    (queue : Queue) (kind : QueueKind) (start : σ) (budget : Nat) (store : Store) :
    queue.retain kind judge start budget (store.only kind) =
      Prod.map id (Prod.map id (Store.only kind)) <$>
        queue.retain kind judge start budget store := by
  rw [retain, retain]
  cases queue.ends with
  | none => rfl
  | some ends => exact retainFrom_only reads ..

theorem linksKeep_without (kind : QueueKind) (store : Store) :
    LinksKeep kind fun after => after.without kind = store.without kind :=
  ⟨fun same modified => (Store.without_of_modify modified).trans same⟩

theorem without_of_push (done : queue.push kind key store = .ok (left, after)) :
    after.without kind = store.without kind := (linksKeep_without kind store).push rfl done

theorem without_of_pop {popped : Option Nat}
    (done : queue.pop kind store = .ok (popped, left, after)) :
    after.without kind = store.without kind := (linksKeep_without kind store).pop rfl done

theorem without_of_drainWithin {budget : Nat} {keys : List Nat}
    (done : drainWithin kind budget queue store = .ok (keys, after)) :
    after.without kind = store.without kind := (linksKeep_without kind store).drainWithin rfl done

theorem without_of_retain {judge : σ → Nat → Stream → Verdict σ} (reads : OnlyReads judge)
    {start last : σ} {budget : Nat}
    (done : queue.retain kind judge start budget store = .ok (left, last, after)) :
    after.without kind = store.without kind := by
  have keeps : PassKeeps kind judge fun after => after.without kind = store.without kind := by
    refine ⟨linksKeep_without kind store, fun same fetched set => ?_⟩
    have present := Store.fetch_eq_ok_iff.1 fetched
    rw [reads.pure, Store.set_of_get? present, Store.put_self present] at set
    cases set
    exact same
  exact keeps.retain rfl done

end Queue

end StreamMux
