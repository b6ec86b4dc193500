import StreamMux.Config.Basic
import StreamMux.Event.Basic
import StreamMux.Queue.Basic

/-!
# Connections

A connection has a store of streams and three queues, and remembers which
streams were reset. Membership in a queue is recorded twice: by the links of the
queue and by a flag in the stream; `Connection.enqueue` sets both.
-/

namespace StreamMux

/-- One side of a multiplexed connection. -/
structure Connection where
  config : Config
  store : Store := .empty
  queues : PerQueue Queue := .replicate .empty
  /-- The id of the stream in each slot, for reports. -/
  slotIds : Array StreamId := #[]
  /-- The streams that were reset and have to be removed. -/
  closing : List StreamId := []
  /-- The streams that were reset while they waited to send. -/
  cancelled : List StreamId := []
  openStreams : UInt32 := 0
  deriving DecidableEq

namespace Connection

/-- A connection without streams, with the room that its settings ask for. -/
def ofConfig (config : Config) : Except SizeError Connection := do
  return { config, store := ← Store.withCapacity config.initialCapacity }

def idOf (conn : Connection) (key : Nat) : Checked StreamId :=
  match conn.slotIds[key]? with
  | some id => .ok id
  | none => .error .outOfRange

/-- The table of slot ids with `id` at `key`; slots before it that have no id yet get id 0. -/
def recordSlot (slotIds : Array StreamId) (key : Nat) (id : StreamId) : Array StreamId :=
  (slotIds ++ Array.replicate (key + 1 - slotIds.size) default).setIfInBounds key id

/-- Puts a stream in a queue, and records in the stream that it is there. -/
def enqueue (conn : Connection) (kind : QueueKind) (key : Nat) : Checked Connection := do
  let store ← conn.store.modify key (·.setQueued kind true)
  let (queue, store) ← (conn.queues.get kind).push kind key store
  return { conn with store, queues := conn.queues.set kind queue }

def hasPendingSend (conn : Connection) : Bool := !conn.queues.send.isEmpty

/-- The number of streams in each of the seven states. -/
def census (conn : Connection) : Checked (List Nat) := do
  let (states, _) ← conn.store.forEach (fun states stream => (stream.state :: states, stream)) []
  if states.any (StreamState.all.length ≤ ·.code) then
    throw .outOfRange
  return StreamState.all.map states.count

theorem idOf_eq_ok_iff {conn : Connection} {key : Nat} {id : StreamId} :
    conn.idOf key = .ok id ↔ conn.slotIds[key]? = some id := by
  unfold idOf
  split <;> simp_all

theorem size_recordSlot (slotIds : Array StreamId) (key : Nat) (id : StreamId) :
    (recordSlot slotIds key id).size = max slotIds.size (key + 1) := by
  simp only [recordSlot, Array.size_setIfInBounds, Array.size_append, Array.size_replicate]
  omega

/-- A recorded id is found at its slot, and the other slots keep theirs. -/
theorem getElem?_recordSlot {slotIds : Array StreamId} {key k : Nat} {id : StreamId}
    (known : k = key ∨ k < slotIds.size) :
    (recordSlot slotIds key id)[k]? = if k = key then some id else slotIds[k]? := by
  by_cases same : k = key
  · have bound : k < slotIds.size + (key + 1 - slotIds.size) := by omega
    subst same
    simp [recordSlot, bound]
  · have bound := known.resolve_left same
    simp [recordSlot, same, Ne.symm same, Array.getElem?_append, bound]

end Connection

end StreamMux
