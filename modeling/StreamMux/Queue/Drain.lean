import StreamMux.Queue.Basic

/-!
# Draining a queue

Popping until the queue is empty. A pop that does not empty the queue clears a
link, so one pop more than there are slots is enough for any chain, sound or not.
-/

namespace StreamMux.Queue

/-- Pops at most `budget` streams, which has to empty the queue. -/
def drainWithin (kind : QueueKind) : Nat → Queue → Store → Checked (List Nat × Store)
  | 0, queue, store => if queue.isEmpty then return ([], store) else throw .unfinished
  | budget + 1, queue, store => do
    match ← queue.pop kind store with
    | (none, _, store) => return ([], store)
    | (some key, queue, store) =>
      let (keys, store) ← drainWithin kind budget queue store
      return (key :: keys, store)

def drain (queue : Queue) (kind : QueueKind) (store : Store) : Checked (List Nat × Store) :=
  drainWithin kind (store.slotCount + 1) queue store

@[simp] theorem drainWithin_empty (kind : QueueKind) (budget : Nat) (store : Store) :
    drainWithin kind budget empty store = .ok ([], store) := by
  cases budget <;> rfl

@[simp] theorem drain_empty (kind : QueueKind) (store : Store) :
    empty.drain kind store = .ok ([], store) := drainWithin_empty ..

end StreamMux.Queue
