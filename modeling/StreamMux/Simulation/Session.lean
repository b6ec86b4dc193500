import StreamMux.Connection.Run

/-!
# A simulated connection

The script of one connection: streams are opened, each gets payload, some are
reset, everything is flushed, and the peer grants credit until all payload is
written or the rounds run out. A session keeps what would be reported in order,
events and lines of its own, so what is reported does not depend on whether
events are printed.
-/

namespace StreamMux.Simulation

def cancelCode : UInt32 := 8

def chunkSize : Nat := 16384

def creditRounds : Nat := 8

inductive Output where
  | event (event : Event)
  | text (text : String)
  deriving DecidableEq, Repr

structure Session where
  connection : Connection
  /-- The streams opened, in order. -/
  opened : Array StreamId := #[]
  /-- What is reported so far. -/
  output : Array Output := #[]

namespace Session

def say (session : Session) (text : String) : Session :=
  { session with output := session.output.push (.text text) }

def play (session : Session) (calls : List Call) : Checked Session := do
  let (connection, events) ← session.connection.run calls
  return { session with connection, output := session.output ++ events.map Output.event }

def attempt (session : Session) (id : StreamId) : Checked Session := do
  let (yes, connection, events) ← session.connection.accept id
  if yes then
    return { session with
      connection
      opened := session.opened.push id
      output := session.output ++ events.map Output.event }
  return { session with connection }.say s!"refused {id}\n"

/-- Opens `count` streams from `id` on, as far as ids go. -/
def openFrom : Nat → StreamId → Session → Checked Session
  | 0, _, session => return session
  | count + 1, id, session => do
    let session ← session.attempt id
    match id.next? with
    | none => return session
    | some next => openFrom count next session

/-- What happens on the `index`-th stream opened: one to six chunks are sent, some
bytes are read, and every fifth stream is reset. -/
def traffic (index : Nat) (id : StreamId) : List Call :=
  List.replicate (1 + index % 6) (.send id (.filled chunkSize (.ofNat index))) ++
    [.consume id (.ofNat (index % 3 * chunkSize + chunkSize))] ++
    if index % 5 = 4 then [.reset id cancelCode] else []

def playTraffic : Nat → List StreamId → Session → Checked Session
  | _, [], session => return session
  | index, id :: rest, session => do
    playTraffic (index + 1) rest (← session.play (traffic index id))

/-- The peer grants every stream its initial credit again, and everything that
can be is written; at most `rounds` times while a stream waits to send. -/
def grantCredit : Nat → Session → Checked Session
  | 0, session => return session
  | rounds + 1, session => do
    if !session.connection.hasPendingSend then
      return session
    let window := session.connection.config.initialWindowSize
    grantCredit rounds
      (← session.play ((session.opened.toList.map (.grant · window)) ++ [.flush]))

/-- The number of streams in each state; states without streams are left out. -/
def censusLine (counts : List Nat) : String :=
  let states := (StreamState.all.zip counts).filterMap fun (state, count) =>
    if count = 0 then none else some s!" {state.name}={count}"
  String.join ("streams by state:" :: states) ++ "\n"

def script (session : Session) (count : Nat) : Checked Session := do
  let session ← openFrom count (.ofRaw 1) session
  let session ← playTraffic 0 session.opened.toList session
  let session ← session.play [.flush]
  let session ← grantCredit creditRounds session
  let session :=
    if session.connection.hasPendingSend then
      session.say "stalled: send queue still waiting for credit\n"
    else session
  return session.say (censusLine (← session.connection.census))

end Session

end StreamMux.Simulation
