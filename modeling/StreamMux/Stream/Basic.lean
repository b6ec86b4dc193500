import StreamMux.Slab.Basic
import StreamMux.Stream.QueueKind
import StreamMux.Stream.State

/-!
# Streams

A stream is one conversation of a connection: its state, the credit of both
directions, the payload that waits for credit, and its place in the queues.
Main statement: transmitting writes the longest run of waiting chunks that the
credit covers, and nothing is lost or reordered
(`transmit_rest_eq_drop`, `Stream.pendingData_transmitted`).
-/

namespace StreamMux

/-- A piece of payload; chunks are written whole. -/
abbrev Chunk := ByteArray

instance Chunk.instDecidableEq : DecidableEq Chunk := ByteArray.instDecidableEq

def Chunk.filled (size : Nat) (byte : UInt8) : Chunk := ⟨Array.replicate size byte⟩

def defaultWindow : Int32 := 65535

def maxWindow : Int := 0x7FFFFFFF

structure Stream where
  state : StreamState := .idle
  /-- Credit left for sending, in bytes. -/
  sendWindow : Int32 := defaultWindow
  /-- Credit left for receiving, in bytes. -/
  recvWindow : Int32 := defaultWindow
  /-- The chunks that wait for send credit, the oldest first. -/
  pendingData : List Chunk := []
  /-- The error code, once the stream is reset. -/
  resetCode : Option UInt32 := none
  /-- Whether the stream is in each queue. The links cannot tell, as the last stream has none. -/
  queued : PerQueue Bool := .replicate false
  /-- The next stream of each queue. -/
  links : PerQueue (Option Nat) := .replicate none
  deriving DecidableEq

namespace Stream

def withWindow (window : Int32) : Stream := { sendWindow := window, recvWindow := window }

def isClosed (stream : Stream) : Bool := stream.state == .closed

def next (kind : QueueKind) (stream : Stream) : Option Nat := stream.links.get kind

def setNext (kind : QueueKind) (key : Option Nat) (stream : Stream) : Stream :=
  { stream with links := stream.links.set kind key }

def setQueued (kind : QueueKind) (queued : Bool) (stream : Stream) : Stream :=
  { stream with queued := stream.queued.set kind queued }

def isQueued (stream : Stream) : Bool := stream.queued.toList.any id

@[simp] theorem next_setNext (kind other : QueueKind) (key : Option Nat) (stream : Stream) :
    (stream.setNext kind key).next other = if other = kind then key else stream.next other :=
  PerQueue.get_set ..

@[simp] theorem next_setQueued (kind other : QueueKind) (queued : Bool) (stream : Stream) :
    (stream.setQueued kind queued).next other = stream.next other := rfl

@[simp] theorem setNext_setNext (kind : QueueKind) (first second : Option Nat) (stream : Stream) :
    (stream.setNext kind first).setNext kind second = stream.setNext kind second := by
  simp [setNext]

@[simp] theorem setNext_next_self (kind : QueueKind) (stream : Stream) :
    stream.setNext kind (stream.next kind) = stream := by
  simp [setNext, next]

@[simp] theorem queued_setNext (kind : QueueKind) (key : Option Nat) (stream : Stream) :
    (stream.setNext kind key).queued = stream.queued := rfl

@[simp] theorem state_setNext (kind : QueueKind) (key : Option Nat) (stream : Stream) :
    (stream.setNext kind key).state = stream.state := rfl

@[simp] theorem state_setQueued (kind : QueueKind) (queued : Bool) (stream : Stream) :
    (stream.setQueued kind queued).state = stream.state := rfl

theorem queued_get_setQueued (kind other : QueueKind) (queued : Bool) (stream : Stream) :
    (stream.setQueued kind queued).queued.get other =
      if other = kind then queued else stream.queued.get other :=
  PerQueue.get_set ..

end Stream

/-- What is left of `chunks` and of `credit` after writing as many chunks, in
order, as the credit covers. -/
def transmit : List Chunk → Int32 → List Chunk × Int32
  | [], credit => ([], credit)
  | chunk :: rest, credit =>
    if (chunk.size : Int) ≤ credit.toInt then transmit rest (credit - Int32.ofNat chunk.size)
    else (chunk :: rest, credit)

/-- What is left is the end of what there was. -/
theorem transmit_rest_eq_drop (chunks : List Chunk) (credit : Int32) :
    ∃ written, (transmit chunks credit).1 = chunks.drop written := by
  induction chunks generalizing credit with
  | nil => exact ⟨0, rfl⟩
  | cons chunk rest ih =>
    unfold transmit
    split
    · obtain ⟨written, eq⟩ := ih (credit - Int32.ofNat chunk.size)
      exact ⟨written + 1, eq⟩
    · exact ⟨0, rfl⟩

/-- Writing stops at a chunk that the remaining credit does not cover. -/
theorem transmit_blocked {chunks rest : List Chunk} {credit left : Int32} {chunk : Chunk}
    (h : transmit chunks credit = (chunk :: rest, left)) : left.toInt < chunk.size := by
  induction chunks generalizing credit with
  | nil => cases h
  | cons first others ih =>
    unfold transmit at h
    split at h
    · exact ih h
    · cases h
      omega

/-- The stream after a turn in the send queue: it writes what its credit
covers, and has ended its side once nothing waits. -/
def Stream.transmitted (stream : Stream) : Stream :=
  let (rest, credit) := transmit stream.pendingData stream.sendWindow
  { stream.setQueued .send false with
    sendWindow := credit
    pendingData := rest
    state := if rest.isEmpty then .halfClosedLocal else stream.state }

theorem Stream.pendingData_transmitted (stream : Stream) :
    stream.transmitted.pendingData = (transmit stream.pendingData stream.sendWindow).1 := rfl

theorem Stream.sendWindow_transmitted (stream : Stream) :
    stream.transmitted.sendWindow = (transmit stream.pendingData stream.sendWindow).2 := rfl

/-- The window after `increment` was granted, in 64 bits and clamped at the largest one. -/
def grantWindow (window increment : Int32) : Int32 :=
  Int32.ofInt (min (window.toInt + increment.toInt) maxWindow)

end StreamMux
