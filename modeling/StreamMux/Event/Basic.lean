import StreamMux.StreamId
import StreamMux.Stream.QueueKind

/-!
# Events

An event tells what happened to a stream. Its line of text is a record of four
fields; labels are written as they are, up to a NUL.
-/

namespace StreamMux

/-- What happened to a stream. A code outside the five kinds is kept as it is. -/
inductive EventKind where
  /-- The stream was put into the store. -/
  | opened
  /-- The stream was pushed on a queue. -/
  | queued
  /-- The stream was popped from a queue and served. -/
  | dispatched
  /-- The stream was dropped from a queue. -/
  | filtered
  /-- The stream was removed from the store. -/
  | closed
  | unrecognised (code : UInt8)
  deriving DecidableEq, Repr

namespace EventKind

def all : List EventKind := [opened, queued, dispatched, filtered, closed]

def ofCode (code : UInt8) : EventKind := all.getD code.toNat (unrecognised code)

def name : EventKind → String
  | opened => "opened"
  | queued => "queued"
  | dispatched => "dispatched"
  | filtered => "filtered"
  | closed => "closed"
  | unrecognised _ => "unknown"

end EventKind

structure Event where
  kind : EventKind
  stream : StreamId
  /-- The queue concerned; empty where none is. -/
  queue : String := ""
  reason : String
  deriving DecidableEq, Repr

namespace Event

/-- The part of a label before its first NUL. -/
def printed (label : String) : String := String.ofList (label.toList.takeWhile (· != '\x00'))

def line (event : Event) : String :=
  String.join
    ["\x7b\"event\":\"", event.kind.name,
      "\",\"stream\":", toString event.stream.toNat,
      ",\"queue\":\"", printed event.queue,
      "\",\"reason\":\"", printed event.reason,
      "\"\x7d"]

def opened (id : StreamId) : Event := { kind := .opened, stream := id, reason := "peer_headers" }

def closed (id : StreamId) : Event := { kind := .closed, stream := id, reason := "reclaimed" }

def queued (queue : QueueKind) (reason : String) (id : StreamId) : Event :=
  { kind := .queued, stream := id, queue := queue.label, reason }

def dispatched (queue : QueueKind) (reason : String) (id : StreamId) : Event :=
  { kind := .dispatched, stream := id, queue := queue.label, reason }

def filtered (queue : QueueKind) (reason : String) (id : StreamId) : Event :=
  { kind := .filtered, stream := id, queue := queue.label, reason }

end Event

end StreamMux
