/-!
# Stream lifecycle states
-/

namespace StreamMux

/-- Where a stream is in its life. A code outside the seven states is kept as it is. -/
inductive StreamState where
  | idle
  | reservedLocal
  | reservedRemote
  | opened
  | halfClosedLocal
  | halfClosedRemote
  | closed
  | unrecognised (code : UInt8)
  deriving DecidableEq, Repr

namespace StreamState

def all : List StreamState :=
  [idle, reservedLocal, reservedRemote, opened, halfClosedLocal, halfClosedRemote, closed]

def ofCode (code : UInt8) : StreamState := all.getD code.toNat (unrecognised code)

/-- The place of a state in `all`; other codes lie past its end. -/
def code : StreamState → Nat
  | idle => 0
  | reservedLocal => 1
  | reservedRemote => 2
  | opened => 3
  | halfClosedLocal => 4
  | halfClosedRemote => 5
  | closed => 6
  | unrecognised code => code.toNat

def name : StreamState → String
  | idle => "idle"
  | reservedLocal => "reserved_local"
  | reservedRemote => "reserved_remote"
  | opened => "open"
  | halfClosedLocal => "half_closed_local"
  | halfClosedRemote => "half_closed_remote"
  | closed => "closed"
  | unrecognised _ => "unknown"

end StreamState

end StreamMux
