import StreamMux.Connection.Operations
import StreamMux.Connection.Flush

/-!
# Runs of a connection

The calls on a connection as data, and what a sequence of calls does. Main
statement: a run of two sequences is the run of the second after the first, with
the events of both in order (`Connection.run_append`).
-/

namespace StreamMux

inductive Call where
  | accept (id : StreamId)
  | send (id : StreamId) (chunk : Chunk)
  | reset (id : StreamId) (code : UInt32)
  | consume (id : StreamId) (count : Int32)
  | grant (id : StreamId) (increment : Int32)
  | flush
  | census
  deriving DecidableEq

inductive Answer where
  | done
  | accepted (yes : Bool)
  | counts (states : List Nat)
  deriving DecidableEq, Repr

namespace Connection

def step (conn : Connection) : Call → Checked (Answer × Connection × List Event)
  | .accept id => do
    let (yes, conn, events) ← conn.accept id
    return (.accepted yes, conn, events)
  | .send id chunk => return (.done, ← conn.send id chunk)
  | .reset id code => return (.done, ← conn.reset id code)
  | .consume id count => return (.done, ← conn.consume id count)
  | .grant id increment => return (.done, ← conn.grant id increment)
  | .flush => return (.done, ← conn.flush)
  | .census => return (.counts (← conn.census), conn, [])

def run (conn : Connection) : List Call → Checked (Connection × List Event)
  | [] => return (conn, [])
  | call :: rest => do
    let (_, conn, events) ← conn.step call
    let (conn, later) ← conn.run rest
    return (conn, events ++ later)

@[simp] theorem run_nil (conn : Connection) : conn.run [] = .ok (conn, []) := rfl

theorem run_cons (conn : Connection) (call : Call) (rest : List Call) :
    conn.run (call :: rest) = (conn.step call >>= fun (_, conn, events) =>
      conn.run rest >>= fun (conn, later) => pure (conn, events ++ later)) := rfl

theorem run_append (conn : Connection) (first second : List Call) :
    conn.run (first ++ second) = (conn.run first >>= fun (conn, events) =>
      conn.run second >>= fun (conn, later) => pure (conn, events ++ later)) := by
  induction first generalizing conn with
  | nil =>
    cases answer : conn.run second with
    | error fault => simp [answer, bind, Except.bind]
    | ok result => simp [answer, bind, Except.bind, pure, Except.pure]
  | cons call rest ih =>
    rw [List.cons_append, run_cons, run_cons]
    cases conn.step call with
    | error fault => rfl
    | ok result =>
      simp only [bind, Except.bind, ih, pure, Except.pure]
      cases result.2.1.run rest with
      | error fault => rfl
      | ok middle =>
        simp only
        cases middle.1.run second with
        | error fault => rfl
        | ok last => simp

end Connection

end StreamMux
