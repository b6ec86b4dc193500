import StreamMux.Connection.Basic
import StreamMux.Store.Entry

/-!
# What an application and a peer ask of a connection

Accepting a stream, sending on it, resetting it, reading from it, and granting
it credit. Each answers with the connection afterwards and the events of the call.
An id without a stream is passed over.
-/

namespace StreamMux.Connection

def openedStream (conn : Connection) : Stream :=
  { Stream.withWindow conn.config.initialWindowSize with state := .opened }

/-- Accepts a stream of the peer, unless the limit is reached or the id is known. -/
def accept (conn : Connection) (id : StreamId) : Checked (Bool × Connection × List Event) := do
  if conn.config.maxConcurrentStreams ≤ conn.openStreams then
    return (false, conn, [])
  match conn.store.entry id with
  | (.occupied _ _, store) => return (false, { conn with store }, [])
  | (.vacant entry, store) =>
    let (key, _, store) ← entry.insert conn.openedStream store
    return (true,
      { conn with
        store
        slotIds := recordSlot conn.slotIds key id
        openStreams := conn.openStreams + 1 },
      [.opened id])

def serve (conn : Connection) (id : StreamId)
    (action : Connection → Nat → Stream → Checked (Connection × List Event)) :
    Checked (Connection × List Event) := do
  let (found, store) := conn.store.find id
  let conn := { conn with store }
  match found with
  | none => return (conn, [])
  | some key => action conn key (← store.fetch key)

/-- Appends a chunk to a stream's payload and queues the stream, unless it is closed. -/
def send (conn : Connection) (id : StreamId) (chunk : Chunk) :
    Checked (Connection × List Event) :=
  conn.serve id fun conn key stream => do
    if stream.isClosed then
      return (conn, [])
    let store ← conn.store.set key { stream with pendingData := stream.pendingData ++ [chunk] }
    let conn := { conn with store }
    if stream.queued.send then
      return (conn, [])
    let conn ← conn.enqueue .send key
    return (conn, [.queued .send "data_ready" (← conn.idOf key)])

/-- Closes a stream with an error code and drops its payload, unless it is closed. -/
def reset (conn : Connection) (id : StreamId) (code : UInt32) :
    Checked (Connection × List Event) :=
  conn.serve id fun conn key stream => do
    if stream.isClosed then
      return (conn, [])
    let store ← conn.store.set key
      { stream with state := .closed, resetCode := some code, pendingData := [] }
    let conn :=
      { conn with
        store
        closing := conn.closing ++ [id]
        cancelled := if stream.queued.send then conn.cancelled ++ [id] else conn.cancelled }
    if stream.queued.reset then
      return (conn, [])
    return (← conn.enqueue .reset key, [.queued .reset "local_cancel" id])

/-- Takes `count` bytes off a stream's receive window. The window is to be
advertised once half of it is used, unless the stream is closed. -/
def consume (conn : Connection) (id : StreamId) (count : Int32) :
    Checked (Connection × List Event) :=
  conn.serve id fun conn key stream => do
    let window := stream.recvWindow - count
    let store ← conn.store.set key { stream with recvWindow := window }
    let conn := { conn with store }
    if conn.config.initialWindowSize / 2 < window || stream.queued.windowUpdate ||
        stream.isClosed then
      return (conn, [])
    return (← conn.enqueue .windowUpdate key, [.queued .windowUpdate "half_window" id])

def grant (conn : Connection) (id : StreamId) (increment : Int32) :
    Checked (Connection × List Event) :=
  conn.serve id fun conn key stream => do
    let store ← conn.store.set key
      { stream with sendWindow := grantWindow stream.sendWindow increment }
    return ({ conn with store }, [])

/-- At the limit nothing is accepted and nothing changes. -/
theorem accept_of_full {conn : Connection}
    (full : conn.config.maxConcurrentStreams ≤ conn.openStreams) (id : StreamId) :
    conn.accept id = .ok (false, conn, []) := by
  rw [accept, if_pos full]
  rfl

/-- A call on an unbound id changes the lookup counts only. -/
theorem serve_of_unbound {conn : Connection} {id : StreamId} (unbound : conn.store.key? id = none)
    (action : Connection → Nat → Stream → Checked (Connection × List Event)) :
    conn.serve id action = .ok ({ conn with store := conn.store.countLookup false }, []) := by
  simp only [serve, Store.find, unbound, Option.isSome_none]
  rfl

end StreamMux.Connection
