import StreamMux.Store.Basic

/-!
# Queues

A queue is a first-in first-out line of streams. It holds the keys of its
first and last stream only; each stream holds the key of the next one, in a
link that belongs to this kind of queue. A queue is meant to be used with one
kind and one store. Used otherwise it does what its links say, or ends in a
fault.
-/

namespace StreamMux

structure Ends where
  head : Nat
  tail : Nat
  deriving DecidableEq, Repr

/-- A line of streams, empty when it has no ends. -/
structure Queue where
  ends : Option Ends := none
  deriving DecidableEq, Repr

namespace Queue

def empty : Queue := {}

def isEmpty (queue : Queue) : Bool := queue.ends.isNone

def head? (queue : Queue) : Option Nat := queue.ends.map Ends.head

def tail? (queue : Queue) : Option Nat := queue.ends.map Ends.tail

/-- Moves the whole line; the second queue is what stays behind. -/
def take (queue : Queue) : Queue × Queue := (queue, empty)

/-- Appends the stream at `key`, which must have no link of this kind. -/
def push (queue : Queue) (kind : QueueKind) (key : Nat) (store : Store) :
    Checked (Queue × Store) := do
  if ((← store.fetch key).next kind).isSome then
    throw .alreadyLinked
  match queue.ends with
  | none => return (⟨some ⟨key, key⟩⟩, store)
  | some ends =>
    let store ← store.modify ends.tail (·.setNext kind (some key))
    return (⟨some { ends with tail := key }⟩, store)

/-- Takes the first stream off; the queue moves on to the stream it links to. -/
def pop (queue : Queue) (kind : QueueKind) (store : Store) :
    Checked (Option Nat × Queue × Store) := do
  match queue.ends with
  | none => return (none, queue, store)
  | some ends =>
    let next := (← store.fetch ends.head).next kind
    if ends.head = ends.tail then
      if next.isSome then
        throw .tailLinked
      return (some ends.head, empty, store)
    else
      let store ← store.modify ends.head (·.setNext kind none)
      match next with
      | none => throw .linkMissing
      | some next => return (some ends.head, ⟨some { ends with head := next }⟩, store)

@[simp] theorem isEmpty_empty : empty.isEmpty = true := rfl

theorem isEmpty_iff {queue : Queue} : queue.isEmpty = true ↔ queue = empty := by
  cases queue with
  | mk ends => cases ends <;> simp [isEmpty, empty]

@[simp] theorem pop_empty (kind : QueueKind) (store : Store) :
    empty.pop kind store = .ok (none, empty, store) := rfl

/-- A queue of one stream is empty after a pop, and no link changes. -/
theorem pop_single {store : Store} {kind : QueueKind} {key : Nat} {stream : Stream}
    (present : store.get? key = some stream) (last : stream.next kind = none) :
    (⟨some ⟨key, key⟩⟩ : Queue).pop kind store = .ok (some key, empty, store) := by
  simp [pop, Store.fetch_eq_ok_iff.2 present, last, bind, Except.bind, pure, Except.pure]

/-- The first stream pushed becomes both ends of the queue. -/
theorem push_empty {store : Store} {kind : QueueKind} {key : Nat} {stream : Stream}
    (present : store.get? key = some stream) (unlinked : stream.next kind = none) :
    empty.push kind key store = .ok (⟨some ⟨key, key⟩⟩, store) := by
  simp [push, empty, Store.fetch_eq_ok_iff.2 present, unlinked, bind, Except.bind, pure,
    Except.pure]

/-- A stream that has a link of the kind cannot be pushed. -/
theorem push_linked {queue : Queue} {store : Store} {kind : QueueKind} {key next : Nat}
    {stream : Stream} (present : store.get? key = some stream)
    (linked : stream.next kind = some next) :
    queue.push kind key store = .error .alreadyLinked := by
  simp [push, Store.fetch_eq_ok_iff.2 present, linked, bind, Except.bind, throw, throwThe,
    MonadExceptOf.throw]

end Queue

end StreamMux
