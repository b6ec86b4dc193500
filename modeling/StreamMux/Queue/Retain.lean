import StreamMux.Queue.Basic

/-!
# Filtering a queue

One pass along the links, from the first stream to the last. Each stream met
is judged once; a stream that is not kept leaves the line with its link cleared,
and the streams that stay keep their order.
-/

namespace StreamMux.Queue

/-- What is decided about a stream: whether it stays, and the stream after the
decision. `state` is handed to the decision about the next one. -/
structure Verdict (σ : Type u) where
  keep : Bool
  stream : Stream
  state : σ

/-- The rest of the pass. `previous` is the last stream kept, and `ends` are
the ends of the line with all streams after `previous` still in it. -/
def retainFrom (kind : QueueKind) (judge : σ → Nat → Stream → Verdict σ) :
    Nat → Ends → Option Nat → Nat → σ → Store → Checked (Queue × σ × Store)
  | 0, _, _, _, _, _ => throw .unfinished
  | budget + 1, ends, previous, current, state, store => do
    let verdict := judge state current (← store.fetch current)
    let store ← store.set current verdict.stream
    let next := verdict.stream.next kind
    if next.isNone && current != ends.tail then
      throw .linkMissing
    if verdict.keep then
      match next with
      | some next => retainFrom kind judge budget ends (some current) next verdict.state store
      | none => return (⟨some ends⟩, verdict.state, store)
    else
      let store ← store.modify current (·.setNext kind none)
      match previous, next with
      | some previous, some next =>
        let store ← store.modify previous (·.setNext kind (some next))
        retainFrom kind judge budget ends (some previous) next verdict.state store
      | some previous, none =>
        let store ← store.modify previous (·.setNext kind none)
        return (⟨some { ends with tail := previous }⟩, verdict.state, store)
      | none, some next =>
        retainFrom kind judge budget { ends with head := next } none next verdict.state store
      | none, none => return (empty, verdict.state, store)

/-- Keeps the streams that `judge` keeps, in one pass of at most `budget` streams. -/
def retain (queue : Queue) (kind : QueueKind) (judge : σ → Nat → Stream → Verdict σ)
    (start : σ) (budget : Nat) (store : Store) : Checked (Queue × σ × Store) :=
  match queue.ends with
  | none => return (queue, start, store)
  | some ends => retainFrom kind judge budget ends none ends.head start store

/-- The decision to drop the streams for which `drop` holds. They record that they have left. -/
def dropping (kind : QueueKind) (drop : Stream → Bool) :
    Unit → Nat → Stream → Verdict Unit := fun _ _ stream =>
  if drop stream then ⟨false, stream.setQueued kind false, ()⟩ else ⟨true, stream, ()⟩

def evict (queue : Queue) (kind : QueueKind) (drop : Stream → Bool) (store : Store) :
    Checked (Queue × Store) := do
  let (queue, _, store) ← queue.retain kind (dropping kind drop) () store.slotCount store
  return (queue, store)

@[simp] theorem retain_empty (kind : QueueKind) (judge : σ → Nat → Stream → Verdict σ)
    (start : σ) (budget : Nat) (store : Store) :
    empty.retain kind judge start budget store = .ok (empty, start, store) := rfl

end StreamMux.Queue
