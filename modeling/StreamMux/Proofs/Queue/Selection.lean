import Mathlib.Data.List.Nodup
import StreamMux.Proofs.Queue.Program

/-!
# What filtering selects

A filter asks for one decision about each stream of a line, in order, each in the state that the
decision before it left (`Queue.decisions`). The line of the streams to keep is what the queue holds
afterwards; a stream is what its decision made of it, and one that leaves has no link
(`Queue.Holds.retain_selects`). How many steps a filter may take makes no difference once they are
as many as the streams of the line (`Queue.retain_mono`).
-/

namespace StreamMux

/-- The streams at the keys of a line, each with its key. -/
def Store.streamsAt (store : Store) (keys : List Nat) : List (Nat × Stream) :=
  keys.filterMap fun key => (store.get? key).map (Prod.mk key)

namespace Queue

/-- A stream that a filter was shown, and what was decided about it. -/
structure Decision (σ : Type) where
  key : Nat
  shown : Stream
  verdict : Verdict σ

/-- The decisions on streams one after the other, each in the state that the last one left. -/
def decisions {σ : Type} (judge : σ → Nat → Stream → Verdict σ) :
    σ → List (Nat × Stream) → List (Decision σ)
  | _, [] => []
  | state, (key, stream) :: rest =>
    ⟨key, stream, judge state key stream⟩ ::
      decisions judge (judge state key stream).state rest

def keptKeys {σ : Type} (decided : List (Decision σ)) : List Nat :=
  (decided.filter (·.verdict.keep)).map (·.key)

def lastState {σ : Type} (start : σ) (decided : List (Decision σ)) : σ :=
  decided.foldl (fun _ decision => decision.verdict.state) start

variable {σ : Type} {judge : σ → Nat → Stream → Verdict σ} {kind : QueueKind} {queue : Queue}
  {store after : Store} {keys : List Nat} {key : Nat} {stream : Stream}

/-- A filter that writes down the keys it is asked about does what it does otherwise. -/
theorem retainFrom_recorded (judge : σ → Nat → Stream → Verdict σ) (kind : QueueKind)
    (budget : Nat) (ends : Ends) (previous : Option Nat) (current : Nat) (state : σ)
    (asked : List Nat) (store : Store) :
    retainFrom kind judge budget ends previous current state store =
      Prod.map id (Prod.map Prod.fst id) <$>
        retainFrom kind (recorded judge) budget ends previous current (state, asked) store := by
  induction budget generalizing ends previous current state asked store with
  | zero => rfl
  | succ budget ih =>
    rw [retainFrom, retainFrom, map_bind]
    apply bind_congr
    intro stream
    rw [recorded]
    generalize judge state current stream = verdict
    obtain ⟨keep, written, state⟩ := verdict
    dsimp only
    rw [map_bind]
    apply bind_congr
    intro store
    cases written.next kind with
    | none =>
      cases current != ends.tail with
      | true => rfl
      | false =>
        cases keep with
        | true => rfl
        | false =>
          simp only [Option.isNone_none, Bool.and_false, Bool.false_eq_true, if_false, map_bind]
          apply bind_congr
          intro store
          cases previous with
          | none => rfl
          | some previous =>
            dsimp only
            rw [map_bind]
            rfl
    | some next =>
      cases keep with
      | true => apply ih
      | false =>
        simp only [Option.isNone_some, Bool.false_and, Bool.false_eq_true, if_false, map_bind]
        apply bind_congr
        intro store
        cases previous with
        | none => apply ih
        | some previous =>
          dsimp only
          rw [map_bind]
          apply bind_congr
          intro store
          apply ih

theorem retain_recorded (judge : σ → Nat → Stream → Verdict σ) (queue : Queue) (kind : QueueKind)
    (start : σ) (asked : List Nat) (budget : Nat) (store : Store) :
    queue.retain kind judge start budget store =
      Prod.map id (Prod.map Prod.fst id) <$>
        queue.retain kind (recorded judge) (start, asked) budget store := by
  rw [retain, retain]
  cases queue.ends with
  | none => rfl
  | some ends => apply retainFrom_recorded

/-- A filter that comes to an end does so with more steps allowed as well. -/
theorem retainFrom_mono {budget more : Nat} {ends : Ends} {previous : Option Nat} {current : Nat}
    {state : σ} {answer : Queue × σ × Store}
    (done : retainFrom kind judge budget ends previous current state store = .ok answer)
    (enough : budget ≤ more) :
    retainFrom kind judge more ends previous current state store = .ok answer := by
  induction budget generalizing more ends previous current state store with
  | zero => cases done
  | succ budget ih =>
    obtain ⟨more, rfl⟩ : ∃ n, more = n + 1 := Nat.exists_eq_add_one.2 (by omega)
    have enough : budget ≤ more := Nat.le_of_succ_le_succ enough
    rw [retainFrom] at done ⊢
    obtain ⟨stream, fetched, done⟩ := Checked.bind_eq_ok_iff.1 done
    rw [fetched, Checked.ok_bind]
    generalize judge state current stream = verdict at done ⊢
    obtain ⟨keep, left, state⟩ := verdict
    obtain ⟨middle, written, done⟩ := Checked.bind_eq_ok_iff.1 done
    dsimp only at done ⊢
    rw [written, Checked.ok_bind]
    cases next : left.next kind with
    | none =>
      -- Without a link this is the last step of the filter.
      simp only [next] at done ⊢
      cases previous with
      | none => exact done
      | some previous => exact done
    | some following =>
      simp only [next, Option.isNone_some, Bool.false_and, Bool.false_eq_true, if_false] at done ⊢
      cases keep with
      | true => exact ih done enough
      | false =>
        obtain ⟨cleared, unlinked, done⟩ := Checked.bind_eq_ok_iff.1 done
        rw [if_neg Bool.false_ne_true, unlinked, Checked.ok_bind]
        cases previous with
        | none => exact ih done enough
        | some previous =>
          obtain ⟨joined, relinked, done⟩ := Checked.bind_eq_ok_iff.1 done
          dsimp only
          rw [relinked, Checked.ok_bind]
          exact ih done enough

theorem retain_mono {budget more : Nat} {start : σ} {answer : Queue × σ × Store}
    (done : queue.retain kind judge start budget store = .ok answer) (enough : budget ≤ more) :
    queue.retain kind judge start more store = .ok answer := by
  unfold retain at done ⊢
  split at done
  · exact done
  · exact retainFrom_mono done enough

theorem streamsAt_cons (present : store.get? key = some stream) (keys : List Nat) :
    store.streamsAt (key :: keys) = (key, stream) :: store.streamsAt keys := by
  rw [Store.streamsAt, List.filterMap_cons, present]
  rfl

/-- Writing to another stream does not change what a line has. -/
theorem streamsAt_put (present : store.get? key = some stream) (new : Stream)
    (absent : key ∉ keys) : (store.put key new).streamsAt keys = store.streamsAt keys := by
  apply List.filterMap_congr
  intro k member
  have apart : k ≠ key := by
    intro same
    exact absent (same ▸ member)
  rw [Store.get?_put present, if_neg apart]

/-- One pass over a line asks for each decision once, and leaves each stream as it was decided. -/
theorem judgeAll_recorded (judge : σ → Nat → Stream → Verdict σ) (state : σ) (asked : List Nat)
    (distinct : keys.Nodup) (present : ∀ k ∈ keys, ∃ stream, store.get? k = some stream) :
    let decided := decisions judge state (store.streamsAt keys)
    ∃ judged, judgeAll (recorded judge) keys (state, asked) store =
        .ok (keptKeys decided, (lastState state decided, asked ++ keys), judged) ∧
      decided.map (·.key) = keys ∧ store.Rewritten judged ∧
      (∀ decision ∈ decided, judged.get? decision.key = some decision.verdict.stream) ∧
      ∀ k, k ∉ keys → judged.get? k = store.get? k := by
  induction keys generalizing store state asked with
  | nil =>
    refine ⟨store, ?_, rfl, .refl store, List.forall_mem_nil _, fun _ _ => rfl⟩
    rw [List.append_nil]
    rfl
  | cons key keys ih =>
    obtain ⟨alone, distinct⟩ := List.nodup_cons.1 distinct
    obtain ⟨stream, found⟩ := present key List.mem_cons_self
    let verdict := judge state key stream
    have others (k : Nat) (apart : k ≠ key) :
        (store.put key verdict.stream).get? k = store.get? k := by
      rw [Store.get?_put found, if_neg apart]
    have present' : ∀ k ∈ keys, ∃ stream, (store.put key verdict.stream).get? k = some stream := by
      intro k member
      have apart : k ≠ key := by
        intro same
        exact alone (same ▸ member)
      rw [others k apart]
      exact present k (List.mem_cons_of_mem _ member)
    obtain ⟨judged, passed, named, rewritten, written, frame⟩ :=
      ih verdict.state (asked ++ [key]) distinct present'
    rw [streamsAt_put found _ alone] at passed named written
    rw [streamsAt_cons found]
    have decided : recorded judge (state, asked) key stream =
        ⟨verdict.keep, verdict.stream, (verdict.state, asked ++ [key])⟩ := rfl
    have whole := judgeAll_cons found decided passed
    refine ⟨judged, ?_, ?_, (Store.rewritten_put found _).trans rewritten, ?_, ?_⟩
    · rw [whole, List.append_assoc, List.singleton_append]
      cases keep : verdict.keep with
      | true => simp [decisions, keptKeys, lastState, verdict, keep]
      | false => simp [decisions, keptKeys, lastState, verdict, keep]
    · rw [decisions, List.map_cons, named]
    · intro decision member
      rcases List.mem_cons.1 member with rfl | later
      · rw [frame key alone, Store.get?_put found, if_pos rfl]
      · exact written decision later
    · intro k outside
      rw [List.mem_cons, not_or] at outside
      rw [frame k outside.2, others k outside.1]

/-- What decisions about the streams of the line `keys` leave of a queue and its store. The queue
holds the streams to keep, in their order. A stream of the line is as its decision left it but for
its link, which is cleared when it leaves. Nothing else changes. -/
structure Selected (kind : QueueKind) (keys : List Nat) (decided : List (Decision σ))
    (before after : Store) (queue : Queue) : Prop where
  held : queue.Holds kind after (keptKeys decided)
  streams : ∀ decision ∈ decided, ∃ next,
    after.get? decision.key = some (decision.verdict.stream.setNext kind next) ∧
      (decision.verdict.keep = false → next = none)
  frame : ∀ k, k ∉ keys → after.get? k = before.get? k
  rewritten : before.Rewritten after

/-- A key is kept when its decision says so. -/
theorem mem_keptKeys {decided : List (Decision σ)} (distinct : (decided.map (·.key)).Nodup)
    {decision : Decision σ} (member : decision ∈ decided) :
    decision.key ∈ keptKeys decided ↔ decision.verdict.keep = true := by
  rw [keptKeys, List.mem_map]
  constructor
  · intro kept
    obtain ⟨other, chosen, same⟩ := kept
    obtain ⟨listed, keep⟩ := List.mem_filter.1 chosen
    rwa [← List.inj_on_of_nodup_map distinct listed member same]
  · intro keep
    exact ⟨decision, List.mem_filter.2 ⟨member, keep⟩, rfl⟩

/-- A filter asks once about each stream of a queue, in order, and keeps the streams that are to
stay in their order. It never meets a fault, and needs no more steps than there are slots. -/
theorem Holds.retain_selects (held : queue.Holds kind store keys) (keepsLink : KeepsLink kind judge)
    (start : σ) :
    let decided := decisions judge start (store.streamsAt keys)
    decided.map (·.key) = keys ∧ keys.length ≤ store.slotCount ∧
      ∃ queue' after, Selected kind keys decided store after queue' ∧
        ∀ budget, keys.length ≤ budget →
          queue.retain kind judge start budget store =
            .ok (queue', lastState start decided, after) ∧
          queue.retain kind (recorded judge) (start, []) budget store =
            .ok (queue', (lastState start decided, keys), after) := by
  intro decided
  have keepsLink' : KeepsLink kind (recorded judge) := by
    intro state key stream
    exact keepsLink state.1 key stream
  obtain ⟨kept, state, judged, queue', after, plainly, along, filtered⟩ :=
    held.retain keepsLink' (start, []) (Nat.le_refl _)
  obtain ⟨judged', passed, named, rewritten, written, frame⟩ :=
    judgeAll_recorded judge start [] held.nodup fun k member => held.exists_get? member
  rw [passed] at plainly
  obtain ⟨rfl, both⟩ := Prod.mk.inj (Except.ok.inj plainly)
  obtain ⟨rfl, rfl⟩ := Prod.mk.inj both
  have distinct : (decided.map (·.key)).Nodup := named ▸ held.nodup
  refine ⟨named, held.length_le, queue', after, ⟨filtered.held, ?_, ?_, ?_⟩, ?_⟩
  · intro decision member
    obtain ⟨next, found⟩ := filtered.relinked.get? (written decision member)
    refine ⟨next, found, fun leaves => ?_⟩
    have inside : decision.key ∈ keys := named ▸ List.mem_map_of_mem member
    have gone : decision.key ∉ keptKeys decided := by
      rw [mem_keptKeys distinct member, leaves]
      exact Bool.false_ne_true
    have cleared := filtered.cleared decision.key inside gone
    rw [Store.link?_of_get? found, Stream.next_setNext, if_pos rfl] at cleared
    exact Option.some.inj cleared
  · intro k outside
    rw [filtered.relinked.frame k outside, frame k outside]
  · exact rewritten.trans filtered.relinked.rewritten
  · intro budget enough
    have recorded := retain_mono along enough
    refine ⟨?_, recorded⟩
    rw [retain_recorded judge queue kind start [], recorded]
    rfl

/-- The streams in the slots 2, 0, 3, 1 and 4 wait to send, in this order. The slot 5 was vacated,
and the stream in the slot 6 is in no queue. -/
def crossed : Store where
  slab :=
    let linked (next : Nat) : Slot Stream := .occupied (({} : Stream).setNext .send (some next))
    { slots := #[linked 3, linked 4, linked 0, linked 1, .occupied {}, .vacant 7, .occupied {}]
      size := 6
      vacantKey := 5
      capacity := 8 }

def crossedLine : Queue := ⟨some ⟨2, 4⟩⟩

/-- Keeps every other stream, the first not among them, and writes down the number of its question
in each. -/
def everyOther (asked _key : Nat) (stream : Stream) : Verdict Nat :=
  ⟨asked % 2 == 1, { stream with recvWindow := .ofNat asked }, asked + 1⟩

theorem retain_selects_everyOther :
    crossedLine.Holds .send crossed [2, 0, 3, 1, 4] ∧ KeepsLink .send everyOther ∧
      let decided := decisions everyOther 0 (crossed.streamsAt [2, 0, 3, 1, 4])
      keptKeys decided = [0, 1] ∧ decided.map (·.key) = [2, 0, 3, 1, 4] ∧ 5 ≤ crossed.slotCount ∧
        ∃ queue' after, Selected .send [2, 0, 3, 1, 4] decided crossed after queue' ∧
          ∀ budget, 5 ≤ budget →
            crossedLine.retain .send everyOther 0 budget crossed =
              .ok (queue', lastState 0 decided, after) ∧
            crossedLine.retain .send (recorded everyOther) (0, []) budget crossed =
              .ok (queue', (lastState 0 decided, [2, 0, 3, 1, 4]), after) := by
  have held : crossedLine.Holds .send crossed [2, 0, 3, 1, 4] := by
    refine ⟨rfl, rfl, ?_, by decide⟩
    exact ⟨rfl, _, rfl, rfl, _, rfl, rfl, _, rfl, rfl, _, rfl, rfl, _, rfl, rfl⟩
  have keepsLink : KeepsLink .send everyOther := fun _ _ _ => rfl
  exact ⟨held, keepsLink, rfl, held.retain_selects keepsLink 0⟩

end Queue

end StreamMux
