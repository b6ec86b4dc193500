import StreamMux.Proofs.Connection.Echo
import StreamMux.Proofs.Simulation.ExitCode

/-!
# Echoing only observes

A line that asks for events to be printed may be put at the end of the settings. The command then
prints the line of each event besides, and nothing else is different: without these lines it prints
what it printed before, and of each kind there are as many as the summary says
(`Simulation.command_echo`).
-/

namespace StreamMux

/-- A line is put at the end of a text: behind a line end, which is added or is there already, or
alone in an empty text. It may be ended itself. -/
inductive Grammar.Extended (line : List Char) : List Char → List Char → Prop where
  | parted (text : List Char) : Extended line text (text ++ '\n' :: line)
  | first : Extended line [] line
  | placed (front : List Char) : Extended line (front ++ ['\n']) (front ++ ['\n'] ++ line)
  | ended {text text' : List Char} (extended : Extended line text text') :
    Extended line text (text' ++ ['\n'])

namespace Config

def echoLine : List Char := "echo_events = true".toList

variable {text text' : List Char} {config : Config}

theorem readLines_echoLine (config : Config) : config.readLines echoLine = .ok config.echoing := rfl

/-- A line end at the end of a text means nothing. -/
theorem parse_append_lineEnd (text : List Char) : parse (text ++ ['\n']) = parse text := by
  have blank : (fun config : Config => config.readLines []) = pure := rfl
  rw [parse_append_newline, blank, bind_pure]

theorem parse_of_extended (extended : Grammar.Extended echoLine text text')
    (read : parse text = .ok config) : parse text' = .ok config.echoing := by
  induction extended with
  | parted text =>
    rw [parse_append_newline, read]
    exact readLines_echoLine config
  | first =>
    cases read
    exact readLines_echoLine defaults
  | placed front =>
    rw [parse_append_lineEnd] at read
    rw [List.append_assoc, List.singleton_append, parse_append_newline, read]
    exact readLines_echoLine config
  | ended extended ih =>
    rw [parse_append_lineEnd]
    exact ih read

end Config

theorem Connection.ofConfig_echoing (config : Config) :
    Connection.ofConfig config.echoing = echoing <$> Connection.ofConfig config := by
  rw [ofConfig, ofConfig, map_bind]
  rfl

namespace Simulation

open Connection

namespace Session

def echoing (session : Session) : Session :=
  { session with connection := session.connection.echoing }

variable (session : Session)

theorem play_echoing (calls : List Call) :
    session.echoing.play calls = echoing <$> session.play calls :=
  Checked.bind_eq_map_bind (session.connection.run_echoing calls) fun _ => by rfl

theorem attempt_echoing (id : StreamId) :
    session.echoing.attempt id = echoing <$> session.attempt id := by
  refine Checked.bind_eq_map_bind (session.connection.accept_echoing id) fun outcome => ?_
  obtain ⟨yes, conn, events⟩ := outcome
  cases yes <;> rfl

theorem openFrom_echoing (count : Nat) (id : StreamId) :
    openFrom count id session.echoing = echoing <$> openFrom count id session := by
  induction count generalizing session id with
  | zero => rfl
  | succ count ih =>
    refine Checked.bind_eq_map_bind (session.attempt_echoing id) fun session => ?_
    cases id.next? with
    | none => rfl
    | some next => exact ih session next

theorem playTraffic_echoing (index : Nat) (ids : List StreamId) :
    playTraffic index ids session.echoing = echoing <$> playTraffic index ids session := by
  induction ids generalizing session index with
  | nil => rfl
  | cons id rest ih =>
    exact Checked.bind_eq_map_bind (session.play_echoing _) fun session => ih session (index + 1)

theorem grantCredit_echoing (rounds : Nat) :
    grantCredit rounds session.echoing = echoing <$> grantCredit rounds session := by
  induction rounds generalizing session with
  | zero => rfl
  | succ rounds ih =>
    have waits : session.echoing.connection.hasPendingSend = session.connection.hasPendingSend :=
      rfl
    rw [grantCredit, grantCredit, waits]
    cases session.connection.hasPendingSend with
    | false => rfl
    | true => exact Checked.bind_eq_map_bind (session.play_echoing _) ih

/-- The script reports the same with events printed or not, as it only keeps them. -/
theorem script_echoing (count : Nat) :
    session.echoing.script count = echoing <$> session.script count := by
  refine Checked.bind_eq_map_bind (session.openFrom_echoing count _) fun session => ?_
  refine Checked.bind_eq_map_bind (session.playTraffic_echoing 0 _) fun session => ?_
  refine Checked.bind_eq_map_bind (session.play_echoing _) fun session => ?_
  refine Checked.bind_eq_map_bind (session.grantCredit_echoing creditRounds) fun session => ?_
  have waits : session.echoing.connection.hasPendingSend = session.connection.hasPendingSend := rfl
  dsimp only
  rw [waits, map_bind]
  cases session.connection.hasPendingSend <;> rfl

end Session

/-- The text without the lines for which `drop` holds. -/
def deleteLines (drop : String → Bool) (text : String) : String :=
  "\n".intercalate ((textLines text).filter (!drop ·))

def eventHead : String := "\x7b\"event\":"

/-- What the line of an event of a kind begins with. -/
def kindHead (kind : EventKind) : String := "\x7b\"event\":\"" ++ kind.name ++ "\""

theorem heads_eventHead (event : Event) : Heads eventHead event.line := by
  have longer : "\x7b\"event\":\"" = eventHead ++ "\"" := by decide
  obtain ⟨rest, line⟩ := event.heads_line
  rw [line, longer]
  exact (heads_append ..).append rest

theorem heads_kindHead (event : Event) : Heads (kindHead event.kind) event.line := by
  have quote : "\",\"stream\":" = "\"" ++ ",\"stream\":" := by decide
  have regroup (first second third fourth rest : String) :
      first ++ (second ++ (third ++ fourth ++ rest)) =
        first ++ second ++ third ++ (fourth ++ rest) := by
    simp only [String.append_assoc]
  rw [Event.line, String.join_cons, String.join_cons, String.join_cons, quote, regroup]
  exact heads_append ..

theorem differs_kindHead {kind other : EventKind} (known : kind ∈ EventKind.all)
    (apart : other ≠ kind) : differs (kindHead kind) (kindHead other) = true := by
  cases other with
  | unrecognised code =>
    -- The code is not printed, so that any other one does as well.
    have unknown : ∀ kind ∈ EventKind.all,
        differs (kindHead kind) (kindHead (.unrecognised 0)) = true := by decide
    exact unknown kind known
  | _ =>
    revert kind
    decide

/-- The line of an event tells its kind. -/
theorem begins_kindHead {kind : EventKind} (known : kind ∈ EventKind.all) (event : Event) :
    begins (kindHead kind) event.line = (event.kind == kind) := by
  by_cases same : event.kind = kind
  · rw [same, beq_self_eq_true, ← same]
    exact (heads_kindHead event).begins
  · rw [beq_false_of_ne same]
    exact (heads_kindHead event).begins_eq_false (differs_kindHead known same)

variable {config : Config} {count : Nat} {session : Session}

/-- The lines that are said, and those of the summary, are not of events. -/
theorem begins_eventHead_eq_false (config : Config) (count : Nat) (counters : Counters)
    (store : Store) : ∀ line ∈ spoken config count ++ summaryLines counters store ++ [""],
      begins eventHead line = false := by
  have apart : ∀ head ∈ partHeads, differs eventHead head = true := by decide
  rw [← flatMap_parts, List.forall_mem_append]
  refine ⟨fun line member => ?_, by decide⟩
  obtain ⟨part, listed, member⟩ := List.mem_flatMap.1 member
  have head : part.head ∈ partHeads := List.mem_map_of_mem (f := Part.head) listed
  exact (heads_parts config count counters store part listed line member).begins_eq_false
    (apart part.head head)

namespace Session

variable
  (said : session.output.toList.filterMap Output.text? = (spoken config count).map (· ++ "\n"))
  (labelled : ∀ event ∈ session.output.toList.filterMap Output.event?, event.Labelled)

include said labelled

/-- Without events what is said is printed, and the summary. -/
theorem lines_report_false : (session.report false).lines =
    spoken config count ++ summaryLines session.counters session.connection.store ++ [""] := by
  rw [Report.lines, report]
  dsimp only
  rw [textLines_shown said (oneLine_spoken config count) false labelled,
    filterMap_line?_false said (oneLine_spoken config count),
    textLines_join (oneLine_summaryLines _ _), List.append_assoc]

/-- Without the lines of events, what is printed is what is printed without events. -/
theorem deleteLines_report : deleteLines (begins eventHead) (session.report true).out =
    (session.report false).out := by
  let keep (line : String) : Bool := !begins eventHead line
  have skips (event : Event) : keep event.line = false :=
    congrArg not (heads_eventHead event).begins
  have others := begins_eventHead_eq_false config count session.counters session.connection.store
  have lines : (textLines (session.report true).out).filter keep =
      (session.report false).lines := by
    rw [lines_report_false said labelled, report]
    dsimp only
    rw [filter_textLines_shown said (oneLine_spoken config count) skips true labelled,
      textLines_join (oneLine_summaryLines _ _), ← List.filter_append, ← List.append_assoc,
      List.filter_eq_self]
    exact fun line member => congrArg not (others line member)
  rw [deleteLines, lines, Report.lines, intercalate_textLines]

/-- The lines of events are those of the events, in order. -/
theorem linesWith_eventHead : (session.report true).linesWith eventHead =
    (session.output.toList.filterMap Output.event?).map Event.line := by
  have others := begins_eventHead_eq_false config count session.counters session.connection.store
  rw [List.append_assoc] at others
  obtain ⟨own, summed⟩ := List.forall_mem_append.1 others
  have none : (summaryLines session.counters session.connection.store ++ [""]).filter
      (begins eventHead) = [] := by
    rw [List.filter_eq_nil_iff]
    exact fun line member => Bool.eq_false_iff.1 (summed line member)
  rw [Report.linesWith, Report.lines, report]
  dsimp only
  rw [filter_textLines_events said (oneLine_spoken config count) own labelled,
    textLines_join (oneLine_summaryLines _ _), none, List.append_nil, List.filter_eq_self]
  intro line member
  obtain ⟨event, -, rfl⟩ := List.mem_map.1 member
  exact (heads_eventHead event).begins

/-- The observer counts the lines of each kind. -/
theorem toList_counters : session.counters.toList = EventKind.all.map fun kind =>
    ((session.report true).linesWith eventHead).countP (begins (kindHead kind)) := by
  rw [linesWith_eventHead said labelled]
  have kinds : ∀ kind ∈ EventKind.all,
      ((session.output.toList.filterMap Output.event?).map Event.line).countP
        (begins (kindHead kind)) =
      (session.output.toList.filterMap Output.event?).countP (·.kind == kind) := by
    intro kind known
    rw [List.countP_map]
    exact List.countP_congr fun event _ => by
      rw [Function.comp_apply, begins_kindHead known]
  rw [List.map_congr_left kinds]
  exact Counters.toList_foldl_add _

end Session

variable {args : List String} {contents contents' : Option ByteArray}

/-- The command reports one session, with events printed or not. -/
theorem command_reports (read : settings args[0]? contents = .ok config)
    (read' : settings args[0]? contents' = .ok config.echoing)
    (silent : config.echoEvents = false)
    (asked : args[1]?.elim (some defaultCount) count? = some count) :
    ∃ conn session, Connection.ofConfig config = .ok conn ∧
      (started conn count).script count = .ok session ∧
      command args contents = .ok (session.report false) ∧
      command args contents' = .ok (session.report true) ∧
      session.output.toList.filterMap Output.text? = (spoken config count).map (· ++ "\n") ∧
      ∀ event ∈ session.output.toList.filterMap Output.event?, event.Labelled := by
  obtain ⟨conn, _, report, built, rfl, done, printed⟩ := command_prints read asked
  obtain ⟨conn', _, report', built', -, done', printed'⟩ := command_prints read' asked
  obtain ⟨session, ran, -, said, labelled⟩ :=
    script_says (fresh_ofConfig built) (valid_of_settings read).window count
  have ran' := (started conn count).script_echoing count
  rw [ofConfig_echoing, built] at built'
  rw [ran] at ran'
  obtain rfl := Except.ok.inj built'
  have made := simulate_eq ran
  have made' := simulate_eq ran'
  rw [silent] at made
  obtain rfl := Except.ok.inj (printed.made.symm.trans made)
  obtain rfl := Except.ok.inj (printed'.made.symm.trans made')
  exact ⟨conn, session, built, ran, done, done', said, labelled⟩

/-- Settings that can be read and ask for no events may be given a last line that asks for them.
Whatever the number of streams is, the command then ends as before and complains of the same, and
without the lines of events it prints what it printed before. If the number is proper, the lines of
each kind are as many as the summary says. -/
theorem command_echo {contents contents' : ByteArray} (read : Config.ofBytes contents = .ok config)
    (silent : config.echoEvents = false)
    (extended : Grammar.Extended Config.echoLine (Grammar.characters contents)
      (Grammar.characters contents')) (path : String) (rest : List String) :
    ∃ report report',
      command (path :: rest) (some contents) = .ok report ∧
      command (path :: rest) (some contents') = .ok report' ∧
      report'.exitCode = report.exitCode ∧ report'.err = report.err ∧
      deleteLines (begins eventHead) report'.out = report.out ∧
      ((∀ arg, ¬Improper (path :: rest) arg) → ∃ counters,
        report'.linesWith "events: " = [eventsText counters] ∧
        counters.toList = EventKind.all.map fun kind =>
          (report'.linesWith eventHead).countP (begins (kindHead kind))) := by
  have read' : Config.ofBytes contents' = .ok config.echoing :=
    Config.parse_of_extended extended read
  have loaded : settings (path :: rest)[0]? (some contents) = .ok config := read
  have loaded' : settings (path :: rest)[0]? (some contents') = .ok config.echoing := read'
  cases asked : (path :: rest)[1]?.elim (some defaultCount) count? with
  | none =>
    obtain ⟨arg, improper⟩ := asked_eq_none_iff.1 asked
    have nothing : deleteLines (begins eventHead) "" = "" := by decide
    exact ⟨_, _, command_improper loaded improper, command_improper loaded' improper, rfl, rfl,
      nothing, fun proper => absurd improper (proper arg)⟩
  | some count =>
    obtain ⟨-, session, -, -, done, done', said, labelled⟩ :=
      command_reports loaded loaded' silent asked
    have known : "events: " ∈ partHeads := by decide
    have summed := linesWith_report said labelled known true
    exact ⟨_, _, done, done', rfl, rfl, Session.deleteLines_report said labelled, fun _ =>
      ⟨session.counters, by simpa [parts] using summed, Session.toList_counters said labelled⟩⟩

def quietSettings : ByteArray := "max_concurrent_streams = 2".toUTF8

def loudSettings : ByteArray := "max_concurrent_streams = 2\necho_events = true\n".toUTF8

/-- What happens to the streams of three attempts with a limit of two. -/
def threeOfTwo : List Event :=
  [.opened (.ofRaw 1), .opened (.ofRaw 3), .queued .send "data_ready" (.ofRaw 1),
    .queued .send "data_ready" (.ofRaw 3), .queued .windowUpdate "half_window" (.ofRaw 3),
    .dispatched .windowUpdate "window_update" (.ofRaw 3),
    .dispatched .send "end_stream" (.ofRaw 1), .dispatched .send "end_stream" (.ofRaw 3)]

/-- Of three attempts with a limit of two streams, one is refused. With events printed, there is a
line for each event of the other two. -/
theorem command_echo_threeOfTwo :
    Config.ofBytes quietSettings = .ok { maxConcurrentStreams := 2 } ∧
      Grammar.Extended Config.echoLine (Grammar.characters quietSettings)
        (Grammar.characters loudSettings) ∧
      ∃ report report' counters,
        command ["settings", "3"] (some quietSettings) = .ok report ∧
        command ["settings", "3"] (some loudSettings) = .ok report' ∧
        report'.exitCode = report.exitCode ∧ report'.err = report.err ∧
        deleteLines (begins eventHead) report'.out = report.out ∧
        report'.linesWith "events: " = [eventsText counters] ∧
        (counters.toList = EventKind.all.map fun kind =>
          (report'.linesWith eventHead).countP (begins (kindHead kind))) ∧
        counters.toList = [2, 3, 3, 0, 0] ∧
        report'.linesWith eventHead = threeOfTwo.map Event.line ∧
        (threeOfTwo.map Event.line).head? = some ("\x7b\"event\":\"opened\",\"stream\":1," ++
          "\"queue\":\"\",\"reason\":\"peer_headers\"\x7d") := by
  have read : Config.ofBytes quietSettings = .ok { maxConcurrentStreams := 2 } := rfl
  have text : Grammar.characters loudSettings =
      Grammar.characters quietSettings ++ '\n' :: Config.echoLine ++ ['\n'] := by decide
  have extended : Grammar.Extended Config.echoLine (Grammar.characters quietSettings)
      (Grammar.characters loudSettings) := by
    rw [text]
    exact .ended (.parted _)
  have proper (arg : String) : ¬Improper ["settings", "3"] arg := fun improper =>
    absurd (asked_eq_none_iff.2 ⟨arg, improper⟩) (by decide)
  obtain ⟨report, report', done, done', exitCode, err, deleted, counted⟩ :=
    command_echo read rfl extended "settings" ["3"]
  obtain ⟨counters, summed, same⟩ := counted proper
  have loaded : settings ["settings", "3"][0]? (some quietSettings) = .ok _ := read
  have loaded' : settings ["settings", "3"][0]? (some loudSettings) = .ok _ :=
    Config.parse_of_extended extended read
  have asked : ["settings", "3"][1]?.elim (some defaultCount) count? = some 3 := by decide
  obtain ⟨conn, session, built, ran, -, echoed, said, labelled⟩ :=
    command_reports loaded loaded' rfl asked
  have happened : session.output.toList.filterMap Output.event? = threeOfTwo := by
    have events : (fun session : Session => session.output.toList.filterMap Output.event?) <$>
        (started conn 3).script 3 = .ok threeOfTwo := by
      cases built
      decide +kernel
    rw [ran] at events
    exact Except.ok.inj events
  obtain rfl := Except.ok.inj (done'.symm.trans echoed)
  have lines := Session.linesWith_eventHead said labelled
  rw [happened] at lines
  have counts : counters.toList = [2, 3, 3, 0, 0] := by
    rw [same, ← Session.toList_counters said labelled, Session.counters, happened]
    rfl
  exact ⟨read, extended, report, _, counters, done, done', exitCode, err, deleted, summed, same,
    counts, lines, by decide⟩

end Simulation

end StreamMux
