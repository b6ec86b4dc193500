import StreamMux.Proofs.Simulation.Opening
import StreamMux.Proofs.Simulation.Payload
import StreamMux.Proofs.Connection.Totals

/-!
# The script is a run of calls

A session carries out calls and says lines in between. What its connection is and what its events
are is what the calls make of a fresh connection (`Simulation.Session.Follows`). The script never
faults, and its calls are known but for the number of rounds of credit: these end early only when
no stream waits (`Simulation.Session.Tried.script`).
-/

namespace StreamMux.Simulation

open Connection StreamId

def Output.event? : Output → Option Event
  | .event happened => some happened
  | .text _ => none

def Output.text? : Output → Option String
  | .event _ => none
  | .text said => some said

namespace Session

/-- A session has carried out `calls` on a fresh connection, has opened the streams of `ids`, and
has said `lines`. -/
structure Follows (session : Session) (config : Config) (ids : List StreamId) (calls : List Call)
    (lines : List String) : Prop where
  models : session.connection.Models (Plain.run { config } calls).1
  opened : session.opened.toList = ids
  events : session.output.toList.filterMap Output.event? = (Plain.run { config } calls).2
  lines : session.output.toList.filterMap Output.text? = lines.map (· ++ "\n")

variable {session : Session} {config : Config} {ids : List StreamId} {calls : List Call}
  {lines : List String}

theorem Follows.say (follows : session.Follows config ids calls lines) (line : String) :
    (session.say (line ++ "\n")).Follows config ids calls (lines ++ [line]) := by
  obtain ⟨models, opened, events, said⟩ := follows
  refine ⟨models, opened, ?_, ?_⟩
  · rw [Session.say, Array.toList_push, List.filterMap_append, events]
    exact List.append_nil _
  · rw [Session.say, Array.toList_push, List.filterMap_append, said, List.map_append]
    rfl

theorem event?_events (events : List Event) :
    (events.map Output.event).filterMap Output.event? = events := by
  simp [List.filterMap_map, Function.comp_def, Output.event?]

theorem text?_events (events : List Event) :
    (events.map Output.event).filterMap Output.text? = [] := by
  simp [Output.text?]

/-- What a session reports of some calls goes on with their events. -/
theorem Follows.extend (follows : session.Follows config ids calls lines) {more : List Call}
    {conn : Connection} (models : conn.Models (Plain.run { config } (calls ++ more)).1)
    {events : List Event}
    (ran : (Plain.run { config } (calls ++ more)).2 = (Plain.run { config } calls).2 ++ events)
    {opened : Array StreamId} {ids' : List StreamId} (now : opened.toList = ids') :
    Follows { connection := conn, opened, output := session.output ++ events.map Output.event }
      config ids' (calls ++ more) lines where
  models := models
  opened := now
  events := by
    rw [ran, Array.toList_appendList, List.filterMap_append, follows.events, event?_events]
  lines := by
    rw [Array.toList_appendList, List.filterMap_append, follows.lines, text?_events,
      List.append_nil]

/-- Calls are carried out, and their events are reported. -/
theorem Follows.play (follows : session.Follows config ids calls lines) (more : List Call) :
    ∃ next, session.play more = .ok next ∧ next.Follows config ids (calls ++ more) lines := by
  obtain ⟨conn, ran, models⟩ := follows.models.run more
  have whole := Plain.run_append { config } calls more
  refine ⟨_, by rw [Session.play, ran]; rfl, ?_⟩
  have models' : conn.Models (Plain.run { config } (calls ++ more)).1 := by
    rw [whole]
    exact models
  exact follows.extend models' (by rw [whole]) follows.opened

def refusal (index : Nat) : String := s!"refused {client index}"

def refusals (config : Config) (attempts : Nat) : List String :=
  (List.range' (config.admitted attempts) (attempts - config.admitted attempts)).map refusal

def admittedIds (config : Config) (attempts : Nat) : List StreamId :=
  (List.range (config.admitted attempts)).map client

/-- A session that tried to open streams, after it said `lines`. -/
def Tried (config : Config) (lines : List String) (attempts : Nat) (session : Session) : Prop :=
  session.Follows config (admittedIds config attempts) (Plain.openings attempts)
    (lines ++ refusals config attempts)

variable {attempts : Nat}

/-- Within the limit nothing was refused, and the next stream is one more. -/
theorem admittedIds_succ (room : attempts < config.maxConcurrentStreams.toNat) :
    admittedIds config (attempts + 1) = admittedIds config attempts ++ [client attempts] ∧
      refusals config (attempts + 1) = refusals config attempts := by
  have before : config.admitted attempts = attempts := Nat.min_eq_left (by omega)
  have after : config.admitted (attempts + 1) = attempts + 1 := Nat.min_eq_left room
  constructor
  · rw [admittedIds, admittedIds, before, after, List.range_succ, List.map_append]
    rfl
  · rw [refusals, refusals, before, after, Nat.sub_self, Nat.sub_self]
    rfl

/-- Beyond the limit no stream comes, and the next attempt is refused too. -/
theorem refusals_succ (full : config.maxConcurrentStreams.toNat ≤ attempts) :
    admittedIds config (attempts + 1) = admittedIds config attempts ∧
      refusals config (attempts + 1) = refusals config attempts ++ [refusal attempts] := by
  have before : config.admitted attempts = config.maxConcurrentStreams.toNat :=
    Nat.min_eq_right full
  have after : config.admitted (attempts + 1) = config.maxConcurrentStreams.toNat :=
    Nat.min_eq_right (by omega)
  constructor
  · rw [admittedIds, admittedIds, before, after]
  · rw [refusals, refusals, before, after, Nat.sub_add_comm full, List.range'_1_concat,
      List.map_append, Nat.add_sub_cancel' full]
    rfl

/-- One more attempt. -/
theorem Tried.attempt (tried : Tried config lines attempts session)
    (bound : attempts < clientCount) :
    ∃ next, session.attempt (client attempts) = .ok next ∧
      Tried config lines (attempts + 1) next := by
  have opened := Plain.opened_openings config (Nat.le_of_lt bound)
  have ran := Plain.run_openings_succ config attempts
  obtain ⟨conn, accepted, models⟩ := tried.models.accept (client attempts)
  have models' : conn.Models (Plain.run { config } (Plain.openings (attempts + 1))).1 := by
    rw [ran]
    exact models
  rw [Session.attempt, accepted, Checked.ok_bind]
  dsimp only at ran
  rw [Plain.openings_succ] at ran models'
  by_cases room : attempts < config.maxConcurrentStreams.toNat
  · obtain ⟨yes, -⟩ := opened.accept bound room
    obtain ⟨ids, refused⟩ := admittedIds_succ room
    rw [yes]
    refine ⟨_, rfl, ?_⟩
    rw [Tried, ids, refused, Plain.openings_succ]
    refine tried.extend models' (by rw [ran]) ?_
    rw [Array.toList_push, tried.opened]
  · obtain ⟨no, -⟩ := opened.refuse (by omega) (client attempts)
    obtain ⟨ids, refused⟩ := refusals_succ (Nat.le_of_not_lt room)
    rw [no] at ran ⊢
    refine ⟨_, rfl, ?_⟩
    rw [Tried, ids, refused, Plain.openings_succ, ← List.append_assoc]
    have silent := tried.extend models' (congrArg Prod.snd ran) tried.opened
    rw [List.map_nil, Array.appendList_nil] at silent
    exact silent.say (refusal attempts)

/-- The attempts go on until there are enough of them or no ids are left. -/
theorem Tried.openFrom (tried : Tried config lines attempts session)
    (bound : attempts < clientCount) (count : Nat) :
    ∃ next, Session.openFrom count (client attempts) session = .ok next ∧
      Tried config lines (min (attempts + count) clientCount) next := by
  induction count generalizing attempts session with
  | zero =>
    rw [Nat.add_zero, Nat.min_eq_left (by omega)]
    exact ⟨session, rfl, tried⟩
  | succ count ih =>
    obtain ⟨middle, attempted, tried'⟩ := tried.attempt bound
    rw [Session.openFrom, attempted, Checked.ok_bind]
    by_cases more : attempts + 1 < clientCount
    · obtain ⟨next, ran, tried''⟩ := ih tried' more
      rw [next?_client more]
      refine ⟨next, ran, ?_⟩
      rw [Nat.add_right_comm] at tried''
      exact tried''
    · have last : attempts + 1 = clientCount := by omega
      rw [next?_client_last last]
      refine ⟨middle, rfl, ?_⟩
      rw [Nat.min_eq_right (by omega), ← last]
      exact tried'

/-- The traffic of streams that lie next to each other. -/
theorem Follows.playTraffic (follows : session.Follows config ids calls lines)
    (start count : Nat) :
    ∃ next, Session.playTraffic start ((List.range' start count).map client) session = .ok next ∧
      next.Follows config ids
        (calls ++ (List.range' start count).flatMap fun index => traffic index (client index))
        lines := by
  induction count generalizing session calls start with
  | zero =>
    refine ⟨session, rfl, ?_⟩
    rw [List.range'_zero, List.flatMap_nil, List.append_nil]
    exact follows
  | succ count ih =>
    obtain ⟨middle, played, follows'⟩ := follows.play (traffic start (client start))
    obtain ⟨next, ran, follows''⟩ := ih follows' (start + 1)
    rw [List.range'_succ, List.map_cons, Session.playTraffic, played, List.flatMap_cons,
      ← List.append_assoc]
    exact ⟨next, ran, follows''⟩

def creditRound (window : Int32) (ids : List StreamId) : List Call :=
  ids.map (.grant · window) ++ [.flush]

/-- Credit is granted for a number of rounds, fewer only if no stream waits any more. -/
theorem Follows.grantCredit (follows : session.Follows config ids calls lines) (rounds : Nat) :
    ∃ next spent, Session.grantCredit rounds session = .ok next ∧ spent ≤ rounds ∧
      (spent = rounds ∨ next.connection.hasPendingSend = false) ∧
      next.Follows config ids
        (calls ++ (List.replicate spent (creditRound config.initialWindowSize ids)).flatten)
        lines := by
  induction rounds generalizing session calls with
  | zero =>
    refine ⟨session, 0, rfl, Nat.le_refl 0, .inl rfl, ?_⟩
    rw [List.replicate_zero, List.flatten_nil, List.append_nil]
    exact follows
  | succ rounds ih =>
    rw [Session.grantCredit]
    cases waits : session.connection.hasPendingSend with
    | false =>
      refine ⟨session, 0, rfl, Nat.zero_le _, .inr waits, ?_⟩
      rw [List.replicate_zero, List.flatten_nil, List.append_nil]
      exact follows
    | true =>
      have settings : session.connection.config = config :=
        follows.models.config.trans (Plain.config_run _ calls)
      obtain ⟨middle, played, follows'⟩ :=
        follows.play (creditRound config.initialWindowSize ids)
      obtain ⟨next, spent, ran, few, ended, follows''⟩ := ih follows'
      rw [settings, follows.opened]
      refine ⟨next, spent + 1, ?_, by omega, ?_, ?_⟩
      · rw [creditRound] at played
        rw [if_neg (by simp)]
        dsimp only
        rw [played]
        exact ran
      · exact ended.imp_left (congrArg (· + 1))
      · rw [List.replicate_succ, List.flatten_cons, ← List.append_assoc]
        exact follows''

/-- What follows once streams are opened: their traffic, a flush, and rounds of credit. -/
def followUp (window : Int32) (count rounds : Nat) : List Call :=
  (List.range count).flatMap (fun index => traffic index (client index)) ++
    .flush :: (List.replicate rounds (creditRound window ((List.range count).map client))).flatten

def scriptCalls (config : Config) (attempts rounds : Nat) : List Call :=
  Plain.openings attempts ++
    followUp config.initialWindowSize (config.admitted attempts) rounds

def censusText (counts : List Nat) : String :=
  String.join ("streams by state:" :: (StreamState.all.zip counts).filterMap fun (state, count) =>
    if count = 0 then none else some s!" {state.name}={count}")

def stallText : String := "stalled: send queue still waiting for credit"

/-- The script ends with what is said of streams that wait, and of all streams. -/
theorem Follows.conclude (follows : session.Follows config ids calls lines) :
    ∃ last counts,
      (do
        let session :=
          if session.connection.hasPendingSend then session.say (stallText ++ "\n") else session
        return session.say (censusLine (← session.connection.census))) = .ok last ∧
      last.connection.census = .ok counts ∧
      last.Follows config ids calls
        (lines ++ (if last.connection.hasPendingSend then [stallText] else []) ++
          [censusText counts]) ∧
      last.connection = session.connection := by
  obtain ⟨counts, counted⟩ : ∃ counts, session.connection.census = .ok counts :=
    ⟨_, follows.models.census⟩
  cases waits : session.connection.hasPendingSend with
  | true =>
    let stalled := session.say (stallText ++ "\n")
    have counted' : stalled.connection.census = .ok counts := counted
    refine ⟨stalled.say (censusText counts ++ "\n"), counts, ?_, counted, ?_, rfl⟩
    · rw [if_pos rfl]
      dsimp only
      rw [counted']
      rfl
    · have waits' : (stalled.say (censusText counts ++ "\n")).connection.hasPendingSend = true :=
        waits
      rw [waits', if_pos rfl]
      exact (follows.say stallText).say (censusText counts)
  | false =>
    refine ⟨session.say (censusText counts ++ "\n"), counts, ?_, counted, ?_, rfl⟩
    · rw [if_neg Bool.false_ne_true]
      dsimp only
      rw [counted]
      rfl
    · have idle : (session.say (censusText counts ++ "\n")).connection.hasPendingSend = false :=
        waits
      rw [idle, if_neg Bool.false_ne_true, List.append_nil]
      exact follows.say (censusText counts)

/-- The script is carried out without a fault. -/
theorem Tried.script (tried : Tried config lines 0 session) (count : Nat) :
    ∃ last rounds counts, session.script count = .ok last ∧ rounds ≤ creditRounds ∧
      (rounds = creditRounds ∨ last.connection.hasPendingSend = false) ∧
      last.connection.census = .ok counts ∧
      last.Follows config (admittedIds config (min count clientCount))
        (scriptCalls config (min count clientCount) rounds)
        (lines ++ refusals config (min count clientCount) ++
          (if last.connection.hasPendingSend then [stallText] else []) ++ [censusText counts]) := by
  obtain ⟨first, opened, tried'⟩ := tried.openFrom (by decide) count
  rw [Nat.zero_add] at tried'
  generalize min count clientCount = attempts at tried' ⊢
  obtain ⟨second, played, follows⟩ := Follows.playTraffic tried' 0 (config.admitted attempts)
  obtain ⟨third, flushed, follows'⟩ := follows.play [.flush]
  obtain ⟨fourth, rounds, granted, few, ended, follows''⟩ := follows'.grantCredit creditRounds
  obtain ⟨last, counts, concluded, counted, followsAll, same⟩ := follows''.conclude
  have ids : first.opened.toList = (List.range' 0 (config.admitted attempts)).map client := by
    rw [tried'.opened, admittedIds, List.range_eq_range']
  have calls : Plain.openings attempts ++
      (List.range' 0 (config.admitted attempts)).flatMap
        (fun index => traffic index (client index)) ++ [.flush] ++
      (List.replicate rounds
        (creditRound config.initialWindowSize (admittedIds config attempts))).flatten =
      scriptCalls config attempts rounds := by
    simp only [scriptCalls, followUp, admittedIds, List.range_eq_range', List.append_assoc,
      List.singleton_append]
  refine ⟨last, rounds, counts, ?_, few, ?_, counted, ?_⟩
  · rw [Session.script, ofRaw_one, opened, Checked.ok_bind, ids, played, Checked.ok_bind, flushed,
      Checked.ok_bind, granted, Checked.ok_bind]
    exact concluded
  · rw [same]
    exact ended
  · rw [← calls]
    exact followsAll

end Session

end StreamMux.Simulation
