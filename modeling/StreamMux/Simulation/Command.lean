import StreamMux.Config.Parser
import StreamMux.Event.Observer
import StreamMux.Simulation.Session
import StreamMux.Version

/-!
# The simulation as a command

The command takes the path of a settings file and a number of streams; both may
be missing. It reports what the simulated connection does, and a summary.
-/

namespace StreamMux.Simulation

def programName : String := "mux_sim"

def defaultCount : Nat := 12

structure Report where
  exitCode : UInt32
  out : String := ""
  err : String := ""
  deriving DecidableEq, Repr

def Report.failure (reason : String) : Report :=
  { exitCode := 1, err := s!"{programName}: {reason}\n" }

def count? (arg : String) : Option Nat := do
  let value ← Decimal.integer? arg.toList
  guard (0 ≤ value ∧ value ≤ 0x7FFFFFFF)
  return value.toNat

def settings (path : Option String) (contents : Option ByteArray) : Except ConfigError Config :=
  match path with
  | none => .ok .defaults
  | some _ => Config.ofFile contents

def print (observer : Observer) (output : List Output) : Observer × String :=
  output.foldl
    (fun (observer, printed) item =>
      match item with
      | .text text => (observer, printed ++ text)
      | .event event =>
        let (observer, written) := observer.record event
        (observer, printed ++ written))
    (observer, "")

def summary (counters : Counters) (store : Store) : String :=
  let stats := store.stats
  let lookups := stats.lookupHits + stats.lookupMisses
  s!"events: opened={counters.opened} queued={counters.queued} " ++
    s!"dispatched={counters.dispatched} filtered={counters.filtered} closed={counters.closed}\n" ++
    s!"store: live={store.size} inserts={stats.inserts} removes={stats.removes} " ++
    s!"lookups={stats.lookupHits}/{lookups}\n"

def simulate (connection : Connection) (count : Nat) : Checked Report := do
  let start : Session := { connection }
  let session ← (start.say s!"{programName} {version}: {count} streams\n").script count
  let (observer, printed) :=
    print { writes := connection.config.echoEvents } session.output.toList
  return { exitCode := 0, out := printed ++ summary observer.counters session.connection.store }

/-- Carries out the command. `contents` is what the file named by the first
argument holds, if it can be read. Further arguments than two are ignored. -/
def command (args : List String) (contents : Option ByteArray) : Checked Report :=
  let path := args.getD 0 ""
  let amount := args.getD 1 ""
  match settings args[0]? contents with
  | .error error => return .failure s!"cannot load {path}: {error.name}"
  | .ok config =>
    match args[1]?.elim (some defaultCount) count? with
    | none => return .failure s!"invalid stream_count '{amount}'"
    | some count =>
      match Connection.ofConfig config with
      | .error _ => return .failure s!"store setup failed (capacity {config.initialCapacity})"
      | .ok connection => simulate connection count

end StreamMux.Simulation
