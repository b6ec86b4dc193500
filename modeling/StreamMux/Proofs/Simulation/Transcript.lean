import StreamMux.Proofs.Event.Log
import StreamMux.Proofs.Simulation.Script
import StreamMux.Simulation.Command

/-!
# The lines that are printed

What the command prints are lines: those that a session says, those of the events where these are
printed (`Simulation.textLines_shown`), and the summary. A line of an event begins with a brace, so
the lines that begin otherwise are known whether events are printed or not
(`Simulation.filter_textLines_shown`).
-/

namespace StreamMux

def begins (start text : String) : Bool := start.toList.isPrefixOf text.toList

def Heads (head text : String) : Prop := ∃ rest, text = head ++ rest

variable {start head text : String}

theorem heads_append (head rest : String) : Heads head (head ++ rest) := ⟨rest, rfl⟩

theorem Heads.append (heads : Heads head text) (rest : String) : Heads head (text ++ rest) := by
  obtain ⟨between, rfl⟩ := heads
  exact ⟨between ++ rest, String.append_assoc ..⟩

theorem Heads.begins (heads : Heads start text) : begins start text = true := by
  obtain ⟨rest, rfl⟩ := heads
  rw [StreamMux.begins, String.toList_append, List.isPrefixOf_iff_prefix]
  exact List.prefix_append ..

/-- Whether two texts have different characters at some place. -/
def differs (first second : String) : Bool :=
  (first.toList.zip second.toList).any fun pair => pair.1 != pair.2

/-- A text does not begin with one that its own beginning differs from. -/
theorem Heads.begins_eq_false (heads : Heads head text) (differs : differs start head = true) :
    StreamMux.begins start text = false := by
  obtain ⟨rest, rfl⟩ := heads
  rw [StreamMux.begins, String.toList_append]
  rw [StreamMux.differs] at differs
  generalize start.toList = first at differs ⊢
  generalize head.toList = second at differs ⊢
  induction first generalizing second with
  | nil => cases differs
  | cons a first ih =>
    cases second with
    | nil => cases differs
    | cons b second =>
      rw [List.zip_cons_cons, List.any_cons, Bool.or_eq_true] at differs
      rw [List.cons_append, List.isPrefixOf_cons_cons, Bool.and_eq_false_iff]
      exact differs.imp (fun apart => beq_false_of_ne (bne_iff_ne.1 apart)) (ih second)

namespace Event

theorem heads_line (event : Event) : Heads "\x7b\"event\":\"" event.line := by
  rw [line, String.join_cons]
  exact heads_append ..

def Labelled (event : Event) : Prop := OneLine event.queue ∧ OneLine event.reason

theorem oneLine_label (kind : QueueKind) : OneLine kind.label := by
  cases kind <;> decide

variable {reason : String}

theorem labelled_opened (id : StreamId) : (opened id).Labelled :=
  ⟨show OneLine "" by decide, show OneLine "peer_headers" by decide⟩

theorem labelled_closed (id : StreamId) : (closed id).Labelled :=
  ⟨show OneLine "" by decide, show OneLine "reclaimed" by decide⟩

/-- An event of a queue has the label of the queue. -/
theorem Labelled.of_queue {kind : EventKind} {queue : QueueKind} {id : StreamId}
    (one : OneLine reason) : Labelled { kind, stream := id, queue := queue.label, reason } :=
  ⟨oneLine_label queue, one⟩

end Event

open Event

/-- The labels of what is reported of a stream are known. -/
theorem Stream.labelled_events (initial : Int32) (id : StreamId) (call : Call) (stream : Stream) :
    ∀ event ∈ stream.events initial id call, event.Labelled := by
  have one {condition : Prop} [Decidable condition] {report : Event} (labelled : report.Labelled) :
      ∀ event ∈ if condition then [report] else [], event.Labelled := by
    split
    · exact List.forall_mem_singleton.2 labelled
    · exact List.forall_mem_nil _
  cases call with
  | send named chunk | reset named code | consume named count =>
    dsimp only [events]
    split
    · exact List.forall_mem_nil _
    · exact List.forall_mem_singleton.2 (.of_queue (by decide))
  | flush =>
    simp only [events, flushEvents, List.forall_mem_append]
    refine ⟨⟨⟨⟨one ?_, one ?_⟩, one ?_⟩, one ?_, one ?_⟩, one (labelled_closed id)⟩
    all_goals exact .of_queue (by decide)
  | accept named | grant named increment | census => exact List.forall_mem_nil _

/-- What holds of the events of each call, holds of all events of a stream. -/
theorem Alone.run_reports {holds : Event → Prop} {initial : Int32} {id : StreamId}
    (opens : holds (.opened id))
    (reports : ∀ (stream : Stream) (call : Call),
      ∀ event ∈ stream.events initial id call, holds event)
    (calls : List Call) (answers : List Answer) (stream : Option Stream) :
    ∀ event ∈ (run initial id calls answers stream).2, holds event := by
  induction calls generalizing answers stream with
  | nil => exact List.forall_mem_nil _
  | cons call rest ih =>
    refine List.forall_mem_append.2 ⟨?_, ih _ _⟩
    cases stream with
    | some stream => exact reports stream call
    | none =>
      cases call with
      | accept named =>
        dsimp only [step]
        split
        · exact List.forall_mem_singleton.2 opens
        · exact List.forall_mem_nil _
      | send named chunk | reset named code | consume named count | grant named increment | flush
      | census => exact List.forall_mem_nil _

namespace Connection

/-- The labels of all events of a connection are known. -/
theorem Models.labelled_run {conn : Connection} {plain : Plain} (models : conn.Models plain)
    (orderly : plain.Orderly) (calls : List Call) :
    ∀ event ∈ (plain.run calls).2, event.Labelled := by
  intro event reported
  obtain ⟨answers, -, shown⟩ := models.view_run orderly calls event.stream
  have mine : event ∈ (plain.run calls).2.filter (Event.about event.stream) :=
    List.mem_filter.2 ⟨reported, beq_iff_eq.2 rfl⟩
  rw [(Prod.mk.inj shown).2] at mine
  exact Alone.run_reports (labelled_opened _)
    (fun stream call => stream.labelled_events _ _ call) _ _ _ event mine

end Connection

namespace Simulation

/-- The text of what is reported; events only where they are printed. -/
def Output.shown (writes : Bool) : Output → String
  | .text said => said
  | .event happened => if writes then happened.line ++ "\n" else ""

theorem print_text (observer : Observer) (output : List Output) (said : String) :
    print observer (output ++ [.text said]) =
      ((print observer output).1, (print observer output).2 ++ said) := by
  rw [print, List.foldl_append]
  rfl

theorem print_event (observer : Observer) (output : List Output) (happened : Event) :
    print observer (output ++ [.event happened]) =
      (((print observer output).1.record happened).1,
        (print observer output).2 ++ ((print observer output).1.record happened).2) := by
  rw [print, List.foldl_append]
  rfl

/-- What is printed is what is reported, and the observer has counted the events of it. -/
theorem print_eq (observer : Observer) (output : List Output) :
    print observer output =
      ({ observer with
          counters := (output.filterMap Output.event?).foldl
            (fun counters event => counters.add event.kind) observer.counters },
        String.join (output.map (Output.shown observer.writes))) := by
  induction output using List.reverseRecOn with
  | nil => rfl
  | append_singleton output item ih =>
    rw [List.filterMap_append, List.foldl_append, List.map_append, String.join_append]
    cases item with
    | text said =>
      rw [print_text, ih]
      rfl
    | event happened =>
      rw [print_event, ih]
      rfl

/-- The line of what is reported; that of an event only where events are printed. -/
def Output.line? (writes : Bool) : Output → Option String
  | .text said => (textLines said).head?
  | .event happened => if writes then some happened.line else none

section Lines

variable {output : List Output} {lines : List String}
  (said : output.filterMap Output.text? = lines.map (· ++ "\n"))
  (one : ∀ line ∈ lines, OneLine line)

include said one

/-- What is printed are the lines of what is reported, if each is said as a whole. -/
theorem textLines_shown (writes : Bool)
    (labelled : ∀ event ∈ output.filterMap Output.event?, event.Labelled) (rest : String) :
    textLines (String.join (output.map (Output.shown writes)) ++ rest) =
      output.filterMap (Output.line? writes) ++ textLines rest := by
  -- On what is reported, with `lines` for what is still to be said.
  induction output generalizing lines with
  | nil =>
    rw [List.map_nil, String.join_nil, String.empty_append]
    rfl
  | cons item output ih =>
    rw [List.map_cons, String.join_cons, String.append_assoc]
    cases item with
    | text printed =>
      cases lines with
      | nil => cases said
      | cons line lines =>
        obtain ⟨rfl, later⟩ := List.cons.inj said
        obtain ⟨here, one⟩ := List.forall_mem_cons.1 one
        have first : Output.line? writes (.text (line ++ "\n")) = some line :=
          congrArg List.head? (textLines_ended here)
        rw [Output.shown, textLines_append here, ih later one labelled,
          List.filterMap_cons_some first, List.cons_append]
    | event happened =>
      obtain ⟨⟨queue, reason⟩, labelled⟩ := List.forall_mem_cons.1 labelled
      have others := ih said one labelled
      cases writes with
      | true =>
        have first : Output.line? true (.event happened) = some happened.line := rfl
        rw [Output.shown, if_pos rfl, textLines_append (oneLine_line queue reason), others,
          List.filterMap_cons_some first, List.cons_append]
      | false =>
        have none : Output.line? false (.event happened) = none := rfl
        rw [Output.shown, if_neg Bool.false_ne_true, String.empty_append, others,
          List.filterMap_cons_none none]

/-- Where events are not printed, the lines are those that are said. -/
theorem filterMap_line?_false : output.filterMap (Output.line? false) = lines := by
  have texts : Output.line? false = fun item =>
      (Output.text? item).bind fun said => (textLines said).head? := by
    funext item
    cases item <;> rfl
  have whole : ∀ line ∈ lines, (textLines (line ++ "\n")).head? = some line :=
    fun line member => congrArg List.head? (textLines_ended (one line member))
  rw [texts, ← List.filterMap_filterMap, said, List.filterMap_map]
  exact (List.filterMap_congr whole).trans List.filterMap_some

/-- Of what is printed, the lines that are not of events are those that are said. -/
theorem filter_textLines_shown {keep : String → Bool}
    (skips : ∀ event : Event, keep event.line = false) (writes : Bool)
    (labelled : ∀ event ∈ output.filterMap Output.event?, event.Labelled) (rest : String) :
    (textLines (String.join (output.map (Output.shown writes)) ++ rest)).filter keep =
      lines.filter keep ++ (textLines rest).filter keep := by
  have silent (item : Output) :
      (item.line? writes).filter keep = (item.line? false).filter keep := by
    cases item with
    | text said => rfl
    | event happened => cases writes <;> simp [Output.line?, skips]
  have kept : (output.filterMap (Output.line? writes)).filter keep = lines.filter keep := by
    rw [← filterMap_line?_false said one, List.filter_filterMap, List.filter_filterMap]
    exact List.filterMap_congr fun item _ => silent item
  rw [textLines_shown said one writes labelled, List.filter_append, kept]

/-- Of what is printed with events, the lines that are not said are those of the events. -/
theorem filter_textLines_events {keep : String → Bool} (skips : ∀ line ∈ lines, keep line = false)
    (labelled : ∀ event ∈ output.filterMap Output.event?, event.Labelled) (rest : String) :
    (textLines (String.join (output.map (Output.shown true)) ++ rest)).filter keep =
      ((output.filterMap Output.event?).map Event.line).filter keep ++
        (textLines rest).filter keep := by
  have unsaid : ∀ item ∈ output, (item.line? true).filter keep =
      (item.event?.map Event.line).filter keep := by
    intro item member
    cases item with
    | text printed =>
      have listed : printed ∈ lines.map (· ++ "\n") :=
        said ▸ List.mem_filterMap.2 ⟨.text printed, member, rfl⟩
      obtain ⟨line, told, rfl⟩ := List.mem_map.1 listed
      simp [Output.line?, Output.event?, textLines_ended (one line told), skips line told]
    | event happened => rfl
  have kept : (output.filterMap (Output.line? true)).filter keep =
      ((output.filterMap Output.event?).map Event.line).filter keep := by
    rw [List.map_filterMap, List.filter_filterMap, List.filter_filterMap]
    exact List.filterMap_congr unsaid
  rw [textLines_shown said one true labelled, List.filter_append, kept]

end Lines

def Report.lines (report : Report) : List String := textLines report.out

/-- The lines that a command prints which begin with `start`. -/
def Report.linesWith (report : Report) (start : String) : List String :=
  report.lines.filter (begins start)

def eventsText (counters : Counters) : String :=
  s!"events: opened={counters.opened} queued={counters.queued} " ++
    s!"dispatched={counters.dispatched} filtered={counters.filtered} closed={counters.closed}"

def storeText (live : Nat) (stats : Stats) : String :=
  s!"store: live={live} inserts={stats.inserts} removes={stats.removes} " ++
    s!"lookups={stats.lookupHits}/{stats.lookupHits + stats.lookupMisses}"

def summaryLines (counters : Counters) (store : Store) : List String :=
  [eventsText counters, storeText store.size store.stats]

theorem summary_eq (counters : Counters) (store : Store) :
    summary counters store = String.join ((summaryLines counters store).map (· ++ "\n")) := by
  have regroup (first second third fourth ends : String) :
      first ++ (second ++ ends) ++ third ++ (fourth ++ ends) =
        String.join [first ++ second ++ ends, third ++ fourth ++ ends] := by
    simp only [String.join_cons, String.join_nil, String.append_assoc, String.append_empty]
  exact regroup ..

def headerText (count : Nat) : String := s!"{programName} {version}: {count} streams"

open Session

theorem oneLine_headerText (count : Nat) : OneLine (headerText count) := by
  have digits := oneLine_toString
  have number : OneLine (toString version) :=
    (((digits version.major).append (by decide)).append (digits version.minor)).append
      (by decide) |>.append (digits version.patch)
  exact (((((OneLine.append (by decide) (by decide)).append number).append (by decide)).append
    (digits count)).append (by decide))

theorem heads_headerText (count : Nat) : Heads "mux_sim" (headerText count) :=
  ((((heads_append ..).append _).append _).append _).append _

theorem oneLine_refusal (index : Nat) : OneLine (refusal index) := by
  have id : OneLine (toString (StreamId.client index)) :=
    (OneLine.append (by decide) (oneLine_toString _)).append (by decide)
  exact OneLine.append (by decide) id

theorem heads_refusal (index : Nat) : Heads "refused " (refusal index) := heads_append ..

theorem oneLine_censusText (counts : List Nat) : OneLine (censusText counts) := by
  have names (state : StreamState) : OneLine state.name := by
    cases state with
    | unrecognised code =>
      show OneLine "unknown"
      decide
    | _ => decide
  refine OneLine.join (List.forall_mem_cons.2 ⟨by decide, fun part member => ?_⟩)
  obtain ⟨⟨state, count⟩, -, shown⟩ := List.mem_filterMap.1 member
  dsimp only at shown
  split at shown
  · cases shown
  · cases shown
    exact ((OneLine.append (by decide) (names state)).append (by decide)).append
      (oneLine_toString count)

theorem oneLine_eventsText (counters : Counters) : OneLine (eventsText counters) := by
  have digits := oneLine_toString
  have opened : OneLine s!"events: opened={counters.opened} queued={counters.queued} " :=
    (((OneLine.append (by decide) (digits _)).append (by decide)).append (digits _)).append
      (by decide)
  exact opened.append (((((OneLine.append (by decide) (digits _)).append (by decide)).append
    (digits _)).append (by decide)).append (digits _))

theorem heads_eventsText (counters : Counters) :
    Heads "events: " (eventsText counters) := by
  have first : Heads "events: " "events: opened=" := heads_append "events: " "opened="
  exact ((((first.append _).append _).append _).append _).append _

theorem oneLine_storeText (live : Nat) (stats : Stats) : OneLine (storeText live stats) := by
  have digits := oneLine_toString
  have moved : OneLine s!"store: live={live} inserts={stats.inserts} removes={stats.removes} " :=
    (((((OneLine.append (by decide) (digits _)).append (by decide)).append (digits _)).append
      (by decide)).append (digits _)).append (by decide)
  exact moved.append
    (((OneLine.append (by decide) (digits _)).append (by decide)).append (digits _))

theorem heads_storeText (live : Nat) (stats : Stats) :
    Heads "store: " (storeText live stats) := by
  have first : Heads "store: " "store: live=" := heads_append "store: " "live="
  exact ((((((first.append _).append _).append _).append _).append _).append _).append _

end Simulation

end StreamMux
