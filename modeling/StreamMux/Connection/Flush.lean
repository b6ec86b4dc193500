import StreamMux.Connection.Basic
import StreamMux.Queue.Drain
import StreamMux.Queue.Retain

/-!
# Flushing a connection

A flush writes what the queues allow and then removes the streams that were
reset. Its phases come in a fixed order: filters, resets, window updates,
payload, removal. A stream that was reset has left the queue for sending before
payload is written, and every queue before it is removed.
-/

namespace StreamMux.Connection

/-- Streams that were reset have nothing left to send. -/
def filterSends (conn : Connection) : Checked (Connection × List Event) := do
  let (queue, store) ← conn.queues.send.evict .send (·.resetCode.isSome) conn.store
  return ({ conn with store, queues := conn.queues.set .send queue, cancelled := [] },
    conn.cancelled.map (.filtered .send "reset_before_write"))

/-- Closed streams have no window to advertise. -/
def filterWindowUpdates (conn : Connection) : Checked Connection := do
  let (queue, store) ← conn.queues.windowUpdate.evict .windowUpdate Stream.isClosed conn.store
  return { conn with store, queues := conn.queues.set .windowUpdate queue }

def drain (conn : Connection) (kind : QueueKind) : Checked (List Nat × Connection) := do
  let (keys, store) ← (conn.queues.get kind).drain kind conn.store
  return (keys, { conn with store, queues := conn.queues.set kind .empty })

/-- Empties a queue, with a change to each of its streams and an event for it. -/
def dispatch (conn : Connection) (kind : QueueKind) (reason : String) (change : Stream → Stream) :
    Checked (Connection × List Event) := do
  let (keys, conn) ← conn.drain kind
  let store ← conn.store.modifyAll keys change
  let ids ← keys.mapM conn.idOf
  return ({ conn with store }, ids.map (.dispatched kind reason))

def writeResets (conn : Connection) : Checked (Connection × List Event) :=
  conn.dispatch .reset "rst_stream" (·.setQueued .reset false)

/-- Advertising a window fills it up again. -/
def writeWindowUpdates (conn : Connection) : Checked (Connection × List Event) :=
  conn.dispatch .windowUpdate "window_update" fun stream =>
    { stream.setQueued .windowUpdate false with recvWindow := conn.config.initialWindowSize }

/-- Every stream that waits to send has one turn. Those that run out of credit
before their payload is written wait again, in the same order. -/
def writeSends (conn : Connection) : Checked (Connection × List Event) := do
  let (keys, conn) ← conn.drain .send
  let store ← conn.store.modifyAll keys Stream.transmitted
  let blocked (key : Nat) : Bool := (store.get? key).any (!·.pendingData.isEmpty)
  let finished ← (keys.filter (!blocked ·)).mapM conn.idOf
  let waiting ← (keys.filter blocked).mapM conn.idOf
  let conn ← (keys.filter blocked).foldlM (·.enqueue .send) { conn with store }
  return (conn,
    finished.map (.dispatched .send "end_stream") ++
      waiting.map (.queued .send "blocked_on_window"))

/-- Removes a stream that was reset, unless it is still in a queue. -/
def reclaimOne (conn : Connection) (id : StreamId) : Checked (Connection × List Event) := do
  let (found, store) := conn.store.find id
  if (found.bind store.get?).any Stream.isQueued then
    return ({ conn with store }, [])
  let (removed, store) ← store.remove id
  if removed.isNone then
    return ({ conn with store }, [])
  return ({ conn with store, openStreams := conn.openStreams - 1 }, [.closed id])

def reclaimNext : Connection × List Event → StreamId → Checked (Connection × List Event)
  | (conn, events), id => do
    let (conn, closed) ← conn.reclaimOne id
    return (conn, events ++ closed)

/-- Removes the streams that were reset. The ids that are still bound afterwards
are left for the next flush. -/
def reclaim (conn : Connection) : Checked (Connection × List Event) := do
  let (conn, events) ← conn.closing.foldlM reclaimNext (conn, [])
  return ({ conn with closing := conn.closing.filter conn.store.contains }, events)

/-- Writes everything that the queues allow, and removes the streams that were reset. -/
def flush (conn : Connection) : Checked (Connection × List Event) := do
  let (conn, filtered) ← conn.filterSends
  let conn ← conn.filterWindowUpdates
  let (conn, resets) ← conn.writeResets
  let (conn, updates) ← conn.writeWindowUpdates
  let (conn, sends) ← conn.writeSends
  let (conn, closed) ← conn.reclaim
  return (conn, filtered ++ resets ++ updates ++ sends ++ closed)

end StreamMux.Connection
