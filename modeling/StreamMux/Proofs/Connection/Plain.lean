import StreamMux.Connection.Run

/-!
# Connections without slots and links

The same connection with its streams under their ids and each of its queues a list of
ids. Its calls are total functions: there is nothing in it that could be out of
range, dangling or linked twice.
-/

namespace StreamMux.Connection

/-- A connection as its calls see it. -/
structure Plain where
  config : Config
  streams : StreamId → Option Stream := fun _ => none
  lines : PerQueue (List StreamId) := .replicate []
  closing : List StreamId := []
  cancelled : List StreamId := []
  openStreams : UInt32 := 0
  stats : Stats := {}

namespace Plain

def changeAll (plain : Plain) (ids : List StreamId) (change : Stream → Stream) : Plain :=
  { plain with
    streams := fun id => if id ∈ ids then (plain.streams id).map change else plain.streams id }

def set (plain : Plain) (id : StreamId) (stream : Stream) : Plain :=
  { plain with streams := fun k => if k = id then some stream else plain.streams k }

def erase (plain : Plain) (id : StreamId) : Plain :=
  { plain with streams := fun k => if k = id then none else plain.streams k }

def setLine (plain : Plain) (kind : QueueKind) (line : List StreamId) : Plain :=
  { plain with lines := plain.lines.set kind line }

def look (plain : Plain) (id : StreamId) : Plain :=
  { plain with
    stats :=
      if (plain.streams id).isSome then
        { plain.stats with lookupHits := plain.stats.lookupHits + 1 }
      else { plain.stats with lookupMisses := plain.stats.lookupMisses + 1 } }

def enqueue (plain : Plain) (kind : QueueKind) (id : StreamId) : Plain :=
  (plain.changeAll [id] (·.setQueued kind true)).setLine kind (plain.lines.get kind ++ [id])

variable {plain : Plain} {id : StreamId} {stream : Stream} {kind : QueueKind}

theorem streams_changeAll (plain : Plain) (ids : List StreamId) (change : Stream → Stream)
    (k : StreamId) :
    (plain.changeAll ids change).streams k =
      if k ∈ ids then (plain.streams k).map change else plain.streams k := rfl

theorem streams_set (plain : Plain) (id : StreamId) (stream : Stream) (k : StreamId) :
    (plain.set id stream).streams k = if k = id then some stream else plain.streams k := rfl

theorem streams_erase (plain : Plain) (id k : StreamId) :
    (plain.erase id).streams k = if k = id then none else plain.streams k := rfl

@[simp] theorem streams_setLine (plain : Plain) (kind : QueueKind) (line : List StreamId) :
    (plain.setLine kind line).streams = plain.streams := rfl

@[simp] theorem lines_set (plain : Plain) (id : StreamId) (stream : Stream) :
    (plain.set id stream).lines = plain.lines := rfl

@[simp] theorem config_set (plain : Plain) (id : StreamId) (stream : Stream) :
    (plain.set id stream).config = plain.config := rfl

theorem lines_setLine (plain : Plain) (kind other : QueueKind) (line : List StreamId) :
    (plain.setLine kind line).lines.get other =
      if other = kind then line else plain.lines.get other := PerQueue.get_set ..

theorem streams_enqueue (plain : Plain) (kind : QueueKind) (id k : StreamId) :
    (plain.enqueue kind id).streams k =
      if k = id then (plain.streams k).map (·.setQueued kind true) else plain.streams k := by
  simp [enqueue, streams_changeAll]

theorem lines_enqueue (plain : Plain) (kind other : QueueKind) (id : StreamId) :
    (plain.enqueue kind id).lines.get other =
      if other = kind then plain.lines.get kind ++ [id] else plain.lines.get other :=
  lines_setLine ..

def openedStream (plain : Plain) : Stream :=
  { Stream.withWindow plain.config.initialWindowSize with state := .opened }

def accept (plain : Plain) (id : StreamId) : Bool × Plain × List Event :=
  if plain.config.maxConcurrentStreams ≤ plain.openStreams then (false, plain, [])
  else if (plain.streams id).isSome then (false, plain.look id, [])
  else
    let opened := (plain.look id).set id plain.openedStream
    (true,
      { opened with
        openStreams := plain.openStreams + 1
        stats := { opened.stats with inserts := opened.stats.inserts + 1 } },
      [.opened id])

def serve (plain : Plain) (id : StreamId) (action : Plain → Stream → Plain × List Event) :
    Plain × List Event :=
  match plain.streams id with
  | none => (plain.look id, [])
  | some stream => action (plain.look id) stream

def send (plain : Plain) (id : StreamId) (chunk : Chunk) : Plain × List Event :=
  plain.serve id fun plain stream =>
    if stream.isClosed then (plain, [])
    else
      let plain := plain.set id { stream with pendingData := stream.pendingData ++ [chunk] }
      if stream.queued.send then (plain, [])
      else (plain.enqueue .send id, [.queued .send "data_ready" id])

def reset (plain : Plain) (id : StreamId) (code : UInt32) : Plain × List Event :=
  plain.serve id fun plain stream =>
    if stream.isClosed then (plain, [])
    else
      let plain :=
        { plain.set id
            { stream with state := .closed, resetCode := some code, pendingData := [] } with
          closing := plain.closing ++ [id]
          cancelled := if stream.queued.send then plain.cancelled ++ [id] else plain.cancelled }
      if stream.queued.reset then (plain, [])
      else (plain.enqueue .reset id, [.queued .reset "local_cancel" id])

def consume (plain : Plain) (id : StreamId) (count : Int32) : Plain × List Event :=
  plain.serve id fun plain stream =>
    let window := stream.recvWindow - count
    let plain := plain.set id { stream with recvWindow := window }
    if plain.config.initialWindowSize / 2 < window || stream.queued.windowUpdate ||
        stream.isClosed then
      (plain, [])
    else (plain.enqueue .windowUpdate id, [.queued .windowUpdate "half_window" id])

def grant (plain : Plain) (id : StreamId) (increment : Int32) : Plain × List Event :=
  plain.serve id fun plain stream =>
    (plain.set id { stream with sendWindow := grantWindow stream.sendWindow increment }, [])

def evict (plain : Plain) (kind : QueueKind) (drop : Stream → Bool) : Plain :=
  let dropped (id : StreamId) : Bool := (plain.streams id).any drop
  let line := plain.lines.get kind
  (plain.changeAll (line.filter dropped) (·.setQueued kind false)).setLine kind
    (line.filter (!dropped ·))

def filterSends (plain : Plain) : Plain × List Event :=
  ({ plain.evict .send (·.resetCode.isSome) with cancelled := [] },
    plain.cancelled.map (.filtered .send "reset_before_write"))

def filterWindowUpdates (plain : Plain) : Plain := plain.evict .windowUpdate Stream.isClosed

def emptyLine (plain : Plain) (kind : QueueKind) (change : Stream → Stream) : Plain :=
  (plain.changeAll (plain.lines.get kind) change).setLine kind []

def dispatch (plain : Plain) (kind : QueueKind) (reason : String) (change : Stream → Stream) :
    Plain × List Event :=
  (plain.emptyLine kind change, (plain.lines.get kind).map (.dispatched kind reason))

def writeResets (plain : Plain) : Plain × List Event :=
  plain.dispatch .reset "rst_stream" (·.setQueued .reset false)

def writeWindowUpdates (plain : Plain) : Plain × List Event :=
  plain.dispatch .windowUpdate "window_update" fun stream =>
    { stream.setQueued .windowUpdate false with recvWindow := plain.config.initialWindowSize }

def blocked (plain : Plain) (id : StreamId) : Bool :=
  (plain.streams id).any (!·.pendingData.isEmpty)

def writeSends (plain : Plain) : Plain × List Event :=
  let line := plain.lines.get .send
  let written := plain.emptyLine .send Stream.transmitted
  let waiting := line.filter written.blocked
  (waiting.foldl (·.enqueue .send) written,
    (line.filter (!written.blocked ·)).map (.dispatched .send "end_stream") ++
      waiting.map (.queued .send "blocked_on_window"))

def reclaimOne (plain : Plain) (id : StreamId) : Plain × List Event :=
  plain.serve id fun plain stream =>
    if stream.isQueued then (plain, [])
    else
      ({ plain.erase id with
          openStreams := plain.openStreams - 1
          stats := { plain.stats with removes := plain.stats.removes + 1 } },
        [.closed id])

def reclaimNext : Plain × List Event → StreamId → Plain × List Event
  | (plain, events), id =>
    let (plain, closed) := plain.reclaimOne id
    (plain, events ++ closed)

def reclaim (plain : Plain) : Plain × List Event :=
  let (plain, events) := plain.closing.foldl reclaimNext (plain, [])
  ({ plain with closing := plain.closing.filter fun id => (plain.streams id).isSome }, events)

def flush (plain : Plain) : Plain × List Event :=
  let (plain, filtered) := plain.filterSends
  let plain := plain.filterWindowUpdates
  let (plain, resets) := plain.writeResets
  let (plain, updates) := plain.writeWindowUpdates
  let (plain, sends) := plain.writeSends
  let (plain, closed) := plain.reclaim
  (plain, filtered ++ resets ++ updates ++ sends ++ closed)

def step (plain : Plain) : Call → Plain × List Event
  | .accept id => (plain.accept id).2
  | .send id chunk => plain.send id chunk
  | .reset id code => plain.reset id code
  | .consume id count => plain.consume id count
  | .grant id increment => plain.grant id increment
  | .flush => plain.flush
  | .census => (plain, [])

def run (plain : Plain) : List Call → Plain × List Event
  | [] => (plain, [])
  | call :: rest =>
    let (plain, events) := plain.step call
    let (plain, later) := plain.run rest
    (plain, events ++ later)

theorem run_append (plain : Plain) (first second : List Call) :
    plain.run (first ++ second) =
      let middle := plain.run first
      let last := middle.1.run second
      (last.1, middle.2 ++ last.2) := by
  induction first generalizing plain with
  | nil => rfl
  | cons call rest ih =>
    rw [List.cons_append, run, run]
    simp only [ih, List.append_assoc]

end Plain

end StreamMux.Connection
