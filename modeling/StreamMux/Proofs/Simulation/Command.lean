import StreamMux.Proofs.Config.Valid
import StreamMux.Proofs.Simulation.Outcome
import StreamMux.Proofs.Simulation.Transcript

/-!
# What the command comes to

A command with usable settings and a proper number of streams succeeds, and what it prints besides
events has a closed form (`Simulation.simulate_prints`). The attempts that are refused and the
summary depend on the number of attempts and the limit alone (`Simulation.command_summary`). Whether
streams are left waiting, and how many are in each state, is a matter of the window too
(`Simulation.command_stalls`).
-/

namespace StreamMux.Simulation

open Connection StreamId Session

variable {config : Config} {conn : Connection} {session : Session} {attempts : Nat}

theorem valid_of_settings {path : Option String} {contents : Option ByteArray}
    (read : settings path contents = .ok config) : config.Valid := by
  cases path with
  | none =>
    cases read
    exact Config.valid_defaults
  | some path =>
    cases contents with
    | none => cases read
    | some bytes => exact Config.valid_of_ofBytes read

/-- There is room for what valid settings ask for. -/
theorem withCapacity_of_valid (valid : config.Valid) :
    Store.withCapacity config.initialCapacity =
      .ok { slab := { capacity := config.initialCapacity } } := by
  rw [Store.withCapacity, Slab.withCapacity, if_pos valid.capacity]
  rfl

theorem exists_ofConfig (valid : config.Valid) :
    ∃ conn, Connection.ofConfig config = .ok conn ∧ conn.config = config := by
  refine ⟨{ config, store := { slab := { capacity := config.initialCapacity } } }, ?_, rfl⟩
  rw [Connection.ofConfig, withCapacity_of_valid valid]
  rfl

def started (conn : Connection) (count : Nat) : Session :=
  Session.say { connection := conn } (headerText count ++ "\n")

theorem tried_started (fresh : conn.Fresh) (count : Nat) :
    Tried conn.config [headerText count] 0 (started conn count) := by
  have begun : Follows { connection := conn } conn.config [] [] [] :=
    ⟨fresh.models_fresh, rfl, rfl, rfl⟩
  have none : conn.config.admitted 0 = 0 := Nat.zero_min _
  have said := begun.say (headerText count)
  rw [Tried, admittedIds, refusals, none]
  exact said

/-- Lines that all begin with the same text, under that text. -/
structure Part where
  head : String
  lines : List String

/-- The lines of a part are picked out by what they begin with. -/
theorem filter_begins_parts {parts : List Part} {start : String}
    (heads : ∀ part ∈ parts, ∀ line ∈ part.lines, Heads part.head line)
    (apart : ∀ head ∈ parts.map Part.head, head ≠ start → differs start head = true) :
    (parts.flatMap Part.lines).filter (begins start) =
      (parts.filter (·.head == start)).flatMap Part.lines := by
  induction parts with
  | nil => rfl
  | cons part rest ih =>
    obtain ⟨begin, later⟩ := List.forall_mem_cons.1 heads
    obtain ⟨differ, apart⟩ := List.forall_mem_cons.1 apart
    rw [List.flatMap_cons, List.filter_append, ih later apart, List.filter_cons]
    by_cases same : part.head = start
    · have all : part.lines.filter (begins start) = part.lines := by
        rw [List.filter_eq_self, ← same]
        exact fun line member => (begin line member).begins
      rw [all, if_pos (beq_iff_eq.2 same), List.flatMap_cons]
    · have none : part.lines.filter (begins start) = [] := by
        rw [List.filter_eq_nil_iff]
        intro line member
        rw [(begin line member).begins_eq_false (differ same)]
        exact Bool.false_ne_true
      rw [none, List.nil_append, if_neg (mt beq_iff_eq.1 same)]

/-- What a simulation prints besides events. -/
def parts (config : Config) (count : Nat) (counters : Counters) (store : Store) : List Part :=
  let attempts := min count clientCount
  let opened := config.admitted attempts
  let window := config.initialWindowSize
  [⟨"mux_sim", [headerText count]⟩,
    ⟨"refused ", refusals config attempts⟩,
    ⟨"stalled", if (List.range opened).any (stalls window) then [stallText] else []⟩,
    ⟨"streams by state:", [statesText window opened]⟩,
    ⟨"events: ", [eventsText counters]⟩,
    ⟨"store: ", [storeText store.size store.stats]⟩]

def partHeads : List String :=
  ["mux_sim", "refused ", "stalled", "streams by state:", "events: ", "store: "]

/-- The parts are told apart by their heads, from each other and from events. -/
theorem partHeads_apart : ∀ start ∈ partHeads,
    (∀ head ∈ partHeads, head ≠ start → differs start head = true) ∧
      differs start "\x7b\"event\":\"" = true ∧ begins start "" = false := by
  decide

theorem heads_parts (config : Config) (count : Nat) (counters : Counters) (store : Store) :
    ∀ part ∈ parts config count counters store, ∀ line ∈ part.lines, Heads part.head line := by
  simp only [parts, List.forall_mem_cons]
  refine ⟨⟨heads_headerText count, nofun⟩, ?_, ?_, ⟨?_, nofun⟩, ⟨heads_eventsText counters, nofun⟩,
    ⟨heads_storeText store.size store.stats, nofun⟩, nofun⟩
  · intro line refused
    obtain ⟨index, -, rfl⟩ := List.mem_map.1 refused
    exact heads_refusal index
  · intro line stalled
    split at stalled
    · rw [List.mem_singleton.1 stalled]
      exact heads_append "stalled" ": send queue still waiting for credit"
    · cases stalled
  · exact (heads_append ..).append _

/-- What a session says in all. -/
def spoken (config : Config) (count : Nat) : List String :=
  let opened := config.admitted (min count clientCount)
  let window := config.initialWindowSize
  [headerText count] ++ refusals config (min count clientCount) ++
    (if (List.range opened).any (stalls window) then [stallText] else []) ++
    [statesText window opened]

theorem flatMap_parts (config : Config) (count : Nat) (counters : Counters) (store : Store) :
    (parts config count counters store).flatMap Part.lines =
      spoken config count ++ summaryLines counters store := by
  simp only [parts, spoken, summaryLines, List.flatMap_cons, List.flatMap_nil, List.append_nil,
    List.append_assoc, List.cons_append, List.nil_append]

theorem oneLine_spoken (config : Config) (count : Nat) :
    ∀ line ∈ spoken config count, OneLine line := by
  simp only [spoken, List.forall_mem_append, List.forall_mem_singleton]
  refine ⟨⟨⟨oneLine_headerText count, ?_⟩, ?_⟩, ?_⟩
  · intro line refused
    obtain ⟨index, -, rfl⟩ := List.mem_map.1 refused
    exact oneLine_refusal index
  · intro line stalled
    split at stalled
    · rw [List.mem_singleton.1 stalled]
      decide
    · cases stalled
  · rw [← censusText_eq]
    exact oneLine_censusText _

theorem oneLine_summaryLines (counters : Counters) (store : Store) :
    ∀ line ∈ summaryLines counters store, OneLine line :=
  List.forall_mem_cons.2 ⟨oneLine_eventsText counters,
    List.forall_mem_singleton.2 (oneLine_storeText store.size store.stats)⟩

def Session.counters (session : Session) : Counters :=
  (session.output.toList.filterMap Output.event?).foldl
    (fun counters event => counters.add event.kind) {}

theorem Concluded.counters (concluded : Concluded config attempts session) :
    ∃ queued dispatched, Session.counters session =
      { opened := config.admitted attempts, queued, dispatched
        filtered := config.admitted attempts / 5, closed := config.admitted attempts / 5 } := by
  have counted : Session.counters session = _ := Counters.foldl_add ..
  refine ⟨(Session.counters session).queued, (Session.counters session).dispatched, ?_⟩
  simp only [counted, concluded.opened, concluded.filtered, concluded.closed, Nat.zero_add]

theorem Concluded.stats (concluded : Concluded config attempts session) :
    ∃ hits misses, session.connection.store.stats =
      { inserts := config.admitted attempts, removes := config.admitted attempts / 5
        lookupHits := hits, lookupMisses := misses } := by
  let stats := session.connection.store.stats
  refine ⟨stats.lookupHits, stats.lookupMisses, ?_⟩
  rw [← concluded.removes, ← concluded.inserts]

def Session.report (session : Session) (writes : Bool) : Report where
  exitCode := 0
  out := String.join (session.output.toList.map (Output.shown writes)) ++
    String.join ((summaryLines session.counters session.connection.store).map (· ++ "\n"))

theorem simulate_eq {count : Nat} (ran : (started conn count).script count = .ok session) :
    simulate conn count = .ok (session.report conn.config.echoEvents) := by
  -- The first line is printed with its end, which `headerText` leaves out.
  have split : " streams\n" = " streams" ++ "\n" := by decide
  have ends (front : String) : front ++ " streams\n" = front ++ " streams" ++ "\n" := by
    rw [split, String.append_assoc]
  have header : s!"{programName} {version}: {count} streams\n" = headerText count ++ "\n" := ends _
  rw [started, ← header] at ran
  rw [simulate]
  dsimp only
  rw [ran, Checked.ok_bind, print_eq, summary_eq]
  rfl

/-- The lines of a part are what is printed under its head, whether events are printed or not. -/
theorem linesWith_report {count : Nat} {start : String}
    (said : session.output.toList.filterMap Output.text? = (spoken config count).map (· ++ "\n"))
    (labelled : ∀ event ∈ session.output.toList.filterMap Output.event?, event.Labelled)
    (known : start ∈ partHeads) (writes : Bool) :
    (session.report writes).linesWith start =
      ((parts config count session.counters session.connection.store).filter
        (·.head == start)).flatMap Part.lines := by
  obtain ⟨apart, unlike, filled⟩ := partHeads_apart start known
  have skips (event : Event) : begins start event.line = false :=
    event.heads_line.begins_eq_false unlike
  -- What follows the last line end is empty, and begins with no head.
  have last : [""].filter (begins start) = [] :=
    List.filter_cons_of_neg (by rw [filled]; exact Bool.false_ne_true)
  rw [← filter_begins_parts (heads_parts _ _ _ _) apart, flatMap_parts, List.filter_append,
    Report.linesWith, Report.lines, Session.report]
  dsimp only
  rw [filter_textLines_shown said (oneLine_spoken config count) skips writes labelled,
    textLines_join (oneLine_summaryLines _ _), List.filter_append, last, List.append_nil]

/-- What a simulation leaves, and what it prints under each head. -/
structure Printed (conn : Connection) (count : Nat) (session : Session) (report : Report) :
    Prop where
  ran : (started conn count).script count = .ok session
  made : simulate conn count = .ok report
  concluded : Concluded conn.config (min count clientCount) session
  exitCode : report.exitCode = 0
  err : report.err = ""
  lines : ∀ start ∈ partHeads, report.linesWith start =
    ((parts conn.config count (Session.counters session) session.connection.store).filter
      (·.head == start)).flatMap Part.lines

namespace Printed

variable {count : Nat} {report : Report} (printed : Printed conn count session report)

include printed

theorem refused : report.linesWith "refused " = refusals conn.config (min count clientCount) := by
  simpa [parts] using printed.lines "refused " (by decide)

theorem stalled : report.linesWith "stalled" =
    if (List.range (conn.config.admitted (min count clientCount))).any
      (stalls conn.config.initialWindowSize) then [stallText] else [] := by
  simpa [parts] using printed.lines "stalled" (by decide)

theorem states : report.linesWith "streams by state:" = [statesText conn.config.initialWindowSize
    (conn.config.admitted (min count clientCount))] := by
  simpa [parts] using printed.lines "streams by state:" (by decide)

theorem events : report.linesWith "events: " = [eventsText session.counters] := by
  simpa [parts] using printed.lines "events: " (by decide)

theorem store : report.linesWith "store: " =
    [storeText session.connection.store.size session.connection.store.stats] := by
  simpa [parts] using printed.lines "store: " (by decide)

end Printed

/-- The script is carried out. What is said in it is known, and the labels of its events are. -/
theorem script_says (fresh : conn.Fresh) (nonneg : 0 ≤ conn.config.initialWindowSize.toInt)
    (count : Nat) : ∃ session, (started conn count).script count = .ok session ∧
      Concluded conn.config (min count clientCount) session ∧
      session.output.toList.filterMap Output.text? = (spoken conn.config count).map (· ++ "\n") ∧
      ∀ event ∈ session.output.toList.filterMap Output.event?, event.Labelled := by
  obtain ⟨session, rounds, counts, ran, few, ended, counted, follows⟩ :=
    (tried_started fresh count).script count
  have concluded := Played.concluded
    ⟨Nat.min_le_right .., few, ended, follows.models, follows.events⟩ fresh nonneg
  have states : censusText counts = statesText conn.config.initialWindowSize
      (conn.config.admitted (min count clientCount)) := by
    rw [← censusText_eq]
    exact congrArg _ (Except.ok.inj (counted.symm.trans concluded.census))
  have labelled : ∀ event ∈ session.output.toList.filterMap Output.event?, event.Labelled := by
    rw [follows.events]
    exact fresh.models_fresh.labelled_run (Plain.orderly_fresh conn.config) _
  have said := follows.lines
  rw [concluded.waits, states] at said
  exact ⟨session, ran, concluded, said, labelled⟩

/-- A simulation succeeds. -/
theorem simulate_prints (fresh : conn.Fresh) (nonneg : 0 ≤ conn.config.initialWindowSize.toInt)
    (count : Nat) : ∃ session report, Printed conn count session report := by
  obtain ⟨session, ran, concluded, said, labelled⟩ := script_says fresh nonneg count
  exact ⟨session, _, ran, simulate_eq ran, concluded, rfl, rfl, fun start known =>
    linesWith_report said labelled known _⟩

variable {args : List String} {contents : Option ByteArray} {count : Nat} {report : Report}

/-- With usable settings and a proper number of streams the command is a simulation. -/
theorem command_prints (read : settings args[0]? contents = .ok config)
    (asked : args[1]?.elim (some defaultCount) count? = some count) :
    ∃ conn session report, Connection.ofConfig config = .ok conn ∧ conn.config = config ∧
      command args contents = .ok report ∧ Printed conn count session report := by
  have valid := valid_of_settings read
  obtain ⟨conn, built, rfl⟩ := exists_ofConfig valid
  obtain ⟨session, report, printed⟩ :=
    simulate_prints (Connection.fresh_ofConfig built) valid.window count
  refine ⟨conn, session, report, built, rfl, ?_, printed⟩
  rw [command, read]
  dsimp only
  rw [asked]
  dsimp only
  rw [built]
  exact printed.made

theorem refusal_eq {index : Nat} (bound : index < clientCount) :
    refusal index = s!"refused StreamId({2 * index + 1})" := by
  rw [← toNat_client bound]
  rfl

/-- The command succeeds. It opens as many streams as the limit and the ids of a client allow,
refuses the others in order, and closes every fifth of those opened. -/
theorem command_summary (read : settings args[0]? contents = .ok config)
    (asked : args[1]?.elim (some defaultCount) count? = some count) :
    let attempts := min count clientCount
    let opened := min attempts config.maxConcurrentStreams.toNat
    ∃ report queued dispatched hits misses,
      command args contents = .ok report ∧ report.exitCode = 0 ∧ report.err = "" ∧
      report.linesWith "refused " = (List.range' opened (attempts - opened)).map
        (fun index => s!"refused StreamId({2 * index + 1})") ∧
      report.linesWith "events: " =
        [eventsText { opened, queued, dispatched, filtered := opened / 5, closed := opened / 5 }] ∧
      report.linesWith "store: " = [storeText (opened - opened / 5)
        { inserts := opened, removes := opened / 5,
          lookupHits := hits, lookupMisses := misses }] := by
  dsimp only
  obtain ⟨conn, session, report, -, rfl, done, printed⟩ := command_prints read asked
  obtain ⟨queued, dispatched, counters⟩ := printed.concluded.counters
  obtain ⟨hits, misses, stats⟩ := printed.concluded.stats
  refine ⟨report, queued, dispatched, hits, misses, done, printed.exitCode, printed.err, ?_, ?_, ?_⟩
  · refine printed.refused.trans (List.map_congr_left fun index member => refusal_eq ?_)
    have within := (List.mem_range'_1.1 member).2
    unfold Config.admitted at within
    omega
  · rw [printed.events, counters]
    rfl
  · rw [printed.store, stats, printed.concluded.size]
    rfl

def smallSettings : ByteArray :=
  "initial_window_size = 5000\nmax_concurrent_streams = 7\necho_events = on".toUTF8

/-- Of nine attempts with a limit of seven streams, the last two are refused. -/
theorem command_summary_nineOfSeven :
    settings ["settings", "9"][0]? (some smallSettings) =
        .ok { initialWindowSize := 5000, maxConcurrentStreams := 7, echoEvents := true } ∧
      ["settings", "9"][1]?.elim (some defaultCount) count? = some 9 ∧
      ∃ report queued dispatched hits misses,
        command ["settings", "9"] (some smallSettings) = .ok report ∧
        report.exitCode = 0 ∧ report.err = "" ∧
        report.linesWith "refused " = ["refused StreamId(15)", "refused StreamId(17)"] ∧
        report.linesWith "events: " =
          [eventsText { opened := 7, queued, dispatched, filtered := 1, closed := 1 }] ∧
        report.linesWith "store: " = [storeText 6
          { inserts := 7, removes := 1, lookupHits := hits, lookupMisses := misses }] := by
  have read : settings ["settings", "9"][0]? (some smallSettings) =
      .ok { initialWindowSize := 5000, maxConcurrentStreams := 7, echoEvents := true } := rfl
  have asked : ["settings", "9"][1]?.elim (some defaultCount) count? = some 9 := rfl
  exact ⟨read, asked, command_summary read asked⟩

/-- Whether streams wait for credit in the end, and how many there are in each state, is known from
the number of streams opened and the window. Streams that are not reset and do not wait have written
everything. With windows of a ninth of six chunks no stream waits. -/
theorem command_stalls (read : settings args[0]? contents = .ok config)
    (asked : args[1]?.elim (some defaultCount) count? = some count) :
    let opened := min (min count clientCount) config.maxConcurrentStreams.toNat
    let window := config.initialWindowSize
    ∃ conn session report,
      Connection.ofConfig config = .ok conn ∧ (started conn count).script count = .ok session ∧
      command args contents = .ok report ∧
      report.linesWith "stalled" =
        (if (List.range opened).any (stalls window) then [stallText] else []) ∧
      report.linesWith "streams by state:" = [statesText window opened] ∧
      (∀ index < opened, index % 5 ≠ 4 → ∃ stream,
        session.connection.store.lookup (client index) = some stream ∧
        stream.state = (if stalls window index then .opened else .halfClosedLocal) ∧
        (stream.pendingData = [] ↔ stalls window index = false)) ∧
      (∀ id stream, session.connection.store.lookup id = some stream →
        ∃ index < opened, index % 5 ≠ 4 ∧ id = client index) ∧
      (98304 ≤ 9 * window.toInt → report.linesWith "stalled" = [] ∧
        ∀ id stream, session.connection.store.lookup id = some stream →
          stream.state = .halfClosedLocal ∧ stream.pendingData = []) := by
  dsimp only
  obtain ⟨conn, session, report, built, rfl, done, printed⟩ := command_prints read asked
  have stalled := printed.stalled
  have places := printed.concluded.places
  have others := printed.concluded.others
  refine ⟨conn, session, report, built, printed.ran, done, stalled, printed.states, places, others,
    fun enough => ?_⟩
  -- No stream has more than six chunks.
  have ample (index : Nat) : stalls conn.config.initialWindowSize index = false := by
    have few : index % 6 < 6 := Nat.mod_lt index (by decide)
    rw [stalls, decide_eq_false (by omega), Bool.and_false]
  constructor
  · rw [stalled, if_neg]
    simp [ample]
  · intro id stream found
    obtain ⟨index, within, kept, rfl⟩ := others id stream found
    obtain ⟨same, found', state, emptied⟩ := places index within kept
    cases found.symm.trans found'
    rw [ample] at state emptied
    exact ⟨state, emptied.2 rfl⟩

/-- Nine windows of 5000 bytes are enough for two chunks: of six streams that are not reset, three
wait. -/
theorem command_stalls_nineOfSeven :
    settings ["settings", "9"][0]? (some smallSettings) =
        .ok { initialWindowSize := 5000, maxConcurrentStreams := 7, echoEvents := true } ∧
      ["settings", "9"][1]?.elim (some defaultCount) count? = some 9 ∧
      ∃ report, command ["settings", "9"] (some smallSettings) = .ok report ∧
        report.linesWith "stalled" = [stallText] ∧
        report.linesWith "streams by state:" =
          ["streams by state: open=3 half_closed_local=3"] := by
  have read : settings ["settings", "9"][0]? (some smallSettings) =
      .ok { initialWindowSize := 5000, maxConcurrentStreams := 7, echoEvents := true } := rfl
  have asked : ["settings", "9"][1]?.elim (some defaultCount) count? = some 9 := rfl
  obtain ⟨-, -, report, -, -, done, stalled, states, -⟩ := command_stalls read asked
  exact ⟨read, asked, report, done, stalled, states⟩

end StreamMux.Simulation
