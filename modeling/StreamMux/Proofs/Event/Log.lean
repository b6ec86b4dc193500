import Mathlib.Data.List.Induction
import StreamMux.Event.Observer
import StreamMux.Proofs.Text.Fields
import StreamMux.Proofs.Text.Lines
import StreamMux.Text.Decimal

/-!
# The log of events can be read back

Each event is written as one line of the log. A reader finds the lines, and in each line the fields,
since no label has the quote that ends it. What the reader takes is what is written and nothing else
(`Log.read?_eq_some_iff`), so the log tells what happened in order, and what was counted
(`Observer.log_tells`). Labels may be bytes as well, each as the character of its number.
-/

namespace StreamMux

namespace StreamId

variable {id : StreamId} {digits : List Char}

/-- Reads the number of an id. A zero in front of other digits is refused. -/
def read? (digits : List Char) : Option StreamId := do
  let value ← Decimal.natural? digits
  if small : value < 0x80000000 then
    if digits = Nat.toDigits 10 value then some ⟨⟨value, small⟩⟩ else none
  else none

theorem read?_eq_some_iff : read? digits = some id ↔ digits = Nat.toDigits 10 id.toNat := by
  constructor
  · intro read
    obtain ⟨value, -, same⟩ := Option.bind_eq_some_iff.1 read
    split at same
    · split at same
      · cases same
        assumption
      · cases same
    · cases same
  · rintro rfl
    refine Option.bind_eq_some_iff.2 ⟨id.toNat, Decimal.natural?_toDigits _, ?_⟩
    rw [dif_pos id.toNat_lt, if_pos rfl]
    rfl

end StreamId

namespace Log

structure Entry where
  kind : String
  stream : StreamId
  queue : String
  reason : String
  deriving DecidableEq, Repr

def quote : Char := '\x22'

/-- What stands behind each field of a line. The first field is empty. -/
def marks : List Mark :=
  [⟨'\x7b', "\"event\":\""⟩, ⟨quote, ",\"stream\":"⟩, ⟨',', "\"queue\":\""⟩,
    ⟨quote, ",\"reason\":\""⟩, ⟨quote, "\x7d"⟩]

namespace Entry

def fields (entry : Entry) : List (List Char) :=
  [[], entry.kind.toList, Nat.toDigits 10 entry.stream.toNat, entry.queue.toList,
    entry.reason.toList]

def line (entry : Entry) : String := .ofList (Mark.fill marks entry.fields)

/-- The texts of the entry have no quote. -/
structure Unquoted (entry : Entry) : Prop where
  kind : quote ∉ entry.kind.toList
  queue : quote ∉ entry.queue.toList
  reason : quote ∉ entry.reason.toList

def ofFields? : List (List Char) → Option Entry
  | [[], kind, number, queue, reason] =>
    (StreamId.read? number).map fun stream =>
      { kind := .ofList kind, stream, queue := .ofList queue, reason := .ofList reason }
  | _ => none

def ofLine? (line : String) : Option Entry := (Mark.fields? marks line.toList).bind ofFields?

variable {entry : Entry}

theorem ofFields?_eq_some_iff {fields : List (List Char)} :
    ofFields? fields = some entry ↔ fields = entry.fields := by
  constructor
  · intro read
    unfold ofFields? at read
    split at read
    · obtain ⟨stream, number, rfl⟩ := Option.map_eq_some_iff.1 read
      rw [StreamId.read?_eq_some_iff] at number
      simp [Entry.fields, number]
    · cases read
  · rintro rfl
    simp [ofFields?, Entry.fields, StreamId.read?_eq_some_iff.2 rfl]

/-- No field has the character that its mark begins with. -/
theorem forall₂_marks_iff :
    List.Forall₂ (fun mark field => mark.stop ∉ field) marks entry.fields ↔ entry.Unquoted := by
  -- The number is not quoted: it goes up to a comma, which is no digit.
  have comma : ',' ∉ Nat.toDigits 10 entry.stream.toNat := fun member =>
    absurd (Nat.isDigit_of_mem_toDigits (by decide) (by decide) member) (by decide)
  simp only [marks, fields, List.forall₂_cons]
  constructor
  · rintro ⟨-, kind, -, queue, reason, -⟩
    exact ⟨kind, queue, reason⟩
  · rintro ⟨kind, queue, reason⟩
    exact ⟨List.not_mem_nil, kind, comma, queue, reason, .nil⟩

/-- A line is read as an entry if it is the line of the entry. -/
theorem ofLine?_eq_some_iff {line : String} :
    ofLine? line = some entry ↔ entry.Unquoted ∧ line = entry.line := by
  rw [ofLine?, Option.bind_eq_some_iff, ← forall₂_marks_iff]
  constructor
  · rintro ⟨fields, read, same⟩
    obtain rfl := ofFields?_eq_some_iff.1 same
    obtain ⟨fit, written⟩ := Mark.fields?_eq_some_iff.1 read
    exact ⟨fit, by rw [Entry.line, ← written, String.ofList_toList]⟩
  · rintro ⟨fit, rfl⟩
    refine ⟨entry.fields, Mark.fields?_eq_some_iff.2 ⟨fit, ?_⟩, ofFields?_eq_some_iff.2 rfl⟩
    rw [Entry.line, String.toList_ofList]

end Entry

/-- Reads lines up to the last one, which has to be empty. -/
def readLines? : List String → Option (List Entry)
  | [] => none
  | [last] => if last = "" then some [] else none
  | line :: next :: rest => do
    return (← Entry.ofLine? line) :: (← readLines? (next :: rest))

def read? (log : String) : Option (List Entry) := readLines? (textLines log)

variable {entries : List Entry} {lines : List String} {log : String}

theorem readLines?_eq_some_iff : readLines? lines = some entries ↔
    (∀ entry ∈ entries, entry.Unquoted) ∧ lines = entries.map Entry.line ++ [""] := by
  -- The cases are those of the reader: no line, the last one (empty or not), a line before others.
  fun_induction readLines? lines generalizing entries with
  | case1 => exact ⟨nofun, fun ⟨_, lines⟩ => absurd lines.symm (by simp)⟩
  | case2 =>
    cases entries with
    | nil => simp
    | cons entry entries => simp
  | case3 last some =>
    cases entries with
    | nil => simp [some]
    | cons entry entries => simp
  | case4 line next rest ih =>
    refine Option.bind_eq_some_iff.trans ?_
    constructor
    · rintro ⟨entry, first, read⟩
      obtain ⟨others, later, same⟩ := Option.bind_eq_some_iff.1 read
      cases same
      obtain ⟨unquoted, rfl⟩ := Entry.ofLine?_eq_some_iff.1 first
      obtain ⟨each, lines⟩ := ih.1 later
      exact ⟨List.forall_mem_cons.2 ⟨unquoted, each⟩, congrArg _ lines⟩
    · rintro ⟨each, lines⟩
      cases entries with
      | nil => cases lines
      | cons entry entries =>
        obtain ⟨first, later⟩ := List.cons.inj lines
        obtain ⟨unquoted, each⟩ := List.forall_mem_cons.1 each
        exact ⟨entry, Entry.ofLine?_eq_some_iff.2 ⟨unquoted, first⟩,
          Option.bind_eq_some_iff.2 ⟨entries, ih.2 ⟨each, later⟩, rfl⟩⟩

/-- A log is read as entries if its lines are those of the entries, each one ended. -/
theorem read?_eq_some_iff : read? log = some entries ↔
    (∀ entry ∈ entries, entry.Unquoted) ∧ textLines log = entries.map Entry.line ++ [""] :=
  readLines?_eq_some_iff

/-- A line that is not ended is refused, although it could be read. -/
example :
    let line := "\x7b\"event\":\"closed\",\"stream\":5,\"queue\":\"\",\"reason\":\",:\"\x7d"
    Entry.ofLine? line = some ⟨"closed", .ofRaw 5, "", ",:"⟩ ∧ read? line = none := by decide

end Log

/-- The label has nothing that ends a label or a line. -/
def Legible (label : String) : Prop := ∀ c ∈ label.toList, c ≠ Log.quote ∧ c ≠ '\n' ∧ c ≠ '\x00'

instance (label : String) : Decidable (Legible label) := List.decidableBAll _ label.toList

theorem Legible.oneLine {label : String} (legible : Legible label) : OneLine label :=
  fun member => (legible _ member).2.1 rfl

theorem Legible.quote_not_mem {label : String} (legible : Legible label) :
    Log.quote ∉ label.toList :=
  fun member => (legible _ member).1 rfl

namespace EventKind

variable {kind other : EventKind}

theorem quote_not_mem_name (kind : EventKind) : Log.quote ∉ kind.name.toList := by
  cases kind with
  | unrecognised code =>
    show Log.quote ∉ "unknown".toList
    decide
  | _ => decide

/-- One of the five kinds is known by its name. -/
theorem name_eq_iff (known : kind ∈ all) : other.name = kind.name ↔ other = kind := by
  simp only [all, List.mem_cons, List.not_mem_nil, or_false] at known
  rcases known with rfl | rfl | rfl | rfl | rfl <;> cases other <;> simp [name]

end EventKind

namespace Event

variable {event : Event} {label : String}

theorem oneLine_printed (one : OneLine label) : OneLine (printed label) := by
  intro member
  rw [printed, String.toList_ofList] at member
  exact one ((List.takeWhile_sublist _).mem member)

theorem oneLine_line (queue : OneLine event.queue) (reason : OneLine event.reason) :
    OneLine event.line := by
  have kind : OneLine event.kind.name := by
    cases event.kind with
    | unrecognised code =>
      show OneLine "unknown"
      decide
    | _ => decide
  have id := oneLine_toString event.stream.toNat
  apply OneLine.join
  simp only [List.forall_mem_cons]
  exact ⟨by decide, kind, by decide, id, by decide, oneLine_printed queue, by decide,
    oneLine_printed reason, by decide, List.forall_mem_nil _⟩

theorem printed_eq (legible : Legible label) : printed label = label := by
  have whole : label.toList.takeWhile (· != '\x00') = label.toList :=
    List.takeWhile_eq_self_iff.2 fun c member => bne_iff_ne.2 (legible c member).2.2
  rw [printed, whole, String.ofList_toList]

/-- Both labels of the event are legible. -/
structure Readable (event : Event) : Prop where
  queue : Legible event.queue
  reason : Legible event.reason

instance (event : Event) : Decidable event.Readable :=
  decidable_of_iff (Legible event.queue ∧ Legible event.reason)
    ⟨fun ⟨queue, reason⟩ => ⟨queue, reason⟩, fun ⟨queue, reason⟩ => ⟨queue, reason⟩⟩

def entry (event : Event) : Log.Entry :=
  { kind := event.kind.name, stream := event.stream, queue := event.queue, reason := event.reason }

theorem Readable.line_eq (readable : event.Readable) : event.line = event.entry.line := by
  apply String.toList_inj.1
  rw [line, printed_eq readable.queue, printed_eq readable.reason, String.toList_join]
  simp [entry, Log.Entry.line, Log.Entry.fields, Log.marks, Log.quote, Mark.fill, Mark.text]

theorem Readable.oneLine (readable : event.Readable) : OneLine event.line :=
  oneLine_line readable.queue.oneLine readable.reason.oneLine

theorem Readable.unquoted (readable : event.Readable) : event.entry.Unquoted :=
  ⟨event.kind.quote_not_mem_name, readable.queue.quote_not_mem, readable.reason.quote_not_mem⟩

end Event

namespace Log

variable {events : List Event} (readable : ∀ event ∈ events, event.Readable)

include readable

/-- The lines of a log are those of the events, each one ended. -/
theorem textLines_events :
    textLines (String.join (events.map (·.line ++ "\n"))) = events.map Event.line ++ [""] := by
  have lines : events.map (·.line ++ "\n") = (events.map Event.line).map (· ++ "\n") := by
    rw [List.map_map]
    rfl
  have one : ∀ line ∈ events.map Event.line, OneLine line :=
    List.forall_mem_map.2 fun event member => (readable event member).oneLine
  rw [lines, textLines_join one]

/-- The log is the only text that is read as the entries of the events. -/
theorem read?_eq_entries_iff {text : String} :
    read? text = some (events.map Event.entry) ↔
      text = String.join (events.map (·.line ++ "\n")) := by
  have unquoted : ∀ entry ∈ events.map Event.entry, entry.Unquoted :=
    List.forall_mem_map.2 fun event member => (readable event member).unquoted
  have lines : (events.map Event.entry).map Entry.line = events.map Event.line := by
    rw [List.map_map]
    exact List.map_congr_left fun event member => (readable event member).line_eq.symm
  rw [read?_eq_some_iff, lines, ← textLines_events readable, textLines_inj]
  exact and_iff_right unquoted

end Log

namespace Observer

theorem recordAll_append (observer : Observer) (events : List Event) (event : Event) :
    observer.recordAll (events ++ [event]) =
      let done := observer.recordAll events
      ((done.1.record event).1, done.2 ++ (done.1.record event).2) := by
  rw [recordAll, List.foldl_append]
  rfl

/-- Each event is counted, and its line is written after the others. -/
theorem recordAll_eq (observer : Observer) (events : List Event) :
    observer.recordAll events =
      ({ observer with
          counters := events.foldl (fun counters event => counters.add event.kind)
            observer.counters },
        if observer.writes then String.join (events.map (·.line ++ "\n")) else "") := by
  obtain ⟨writes, counters⟩ := observer
  induction events using List.reverseRecOn with
  | nil => cases writes <;> rfl
  | append_singleton events event ih =>
    rw [recordAll_append, ih, List.foldl_append]
    cases writes with
    | true => simp [record]
    | false => simp [record]

end Observer

namespace Counters

/-- Of each of the five kinds, the counts are the numbers of entries that name it. -/
theorem toList_tally (events : List Event) :
    (events.foldl (fun counters event => counters.add event.kind) ({} : Counters)).toList =
      EventKind.all.map fun kind => (events.map Event.entry).countP (·.kind == kind.name) := by
  rw [toList_foldl_add]
  refine List.map_congr_left fun kind known => ?_
  rw [List.countP_map]
  refine List.countP_congr fun event _ => ?_
  rw [Function.comp_apply, beq_iff_eq, beq_iff_eq]
  exact (EventKind.name_eq_iff known).symm

/-- Events of other kinds are counted nowhere. -/
theorem foldl_add_filter (counters : Counters) (events : List Event) :
    (events.filter (·.kind.name != "unknown")).foldl
        (fun counters event => counters.add event.kind) counters =
      events.foldl (fun counters event => counters.add event.kind) counters := by
  rw [List.foldl_filter]
  congr 1
  funext counters event
  cases kind : event.kind <;> simp [add, EventKind.name]

end Counters

/-- An observer that writes has one ended line for each event, in order, and the log is read back:
as the kinds, ids and labels of these events, and of no others with legible labels. Its counts are
the numbers of the lines with each name, and they are the same for an observer that writes
nothing. -/
theorem Observer.log_tells (events : List Event) (readable : ∀ event ∈ events, event.Readable) :
    ∃ writer silent log,
      (Observer.mk true {}).recordAll events = (writer, log) ∧
      (Observer.mk false {}).recordAll events = (silent, "") ∧
      silent.counters = writer.counters ∧
      textLines log = events.map Event.line ++ [""] ∧
      (∀ text, Log.read? text = some (events.map Event.entry) ↔ text = log) ∧
      (∀ others : List Event, (∀ event ∈ others, event.Readable) →
        ((Observer.mk true {}).recordAll others).2 = log →
          others.map Event.entry = events.map Event.entry) ∧
      writer.counters.toList =
        (EventKind.all.map fun kind =>
          (events.map Event.entry).countP (·.kind == kind.name)) ∧
      ((Observer.mk true {}).recordAll
        (events.filter (·.kind.name != "unknown"))).1.counters = writer.counters := by
  have wrote (events : List Event) : (Observer.mk true {}).recordAll events =
    (⟨true, _⟩, String.join (events.map (·.line ++ "\n"))) := recordAll_eq _ events
  refine ⟨_, _, _, wrote events, recordAll_eq _ events, rfl, Log.textLines_events readable,
    fun text => Log.read?_eq_entries_iff readable, fun others legible same => ?_,
    Counters.toList_tally events, ?_⟩
  · rw [wrote] at same
    have read := (Log.read?_eq_entries_iff legible).2 same.symm
    rw [(Log.read?_eq_entries_iff readable).2 rfl] at read
    exact (Option.some.inj read).symm
  · rw [counters_recordAll]
    exact Counters.foldl_add_filter {} events

/-- Events with labels that look like the text between labels, with empty labels, and of a kind that
has no name. -/
def Event.lookalikes : List Event :=
  [{ kind := .opened, stream := .max, reason := "\x7d,stream:7,queue:" },
    { kind := .ofCode 9, stream := .zero, queue := ",reason:,", reason := "" },
    { kind := .queued, stream := .ofRaw 10, queue := "\\", reason := "\x7b:\\n" }]

theorem Observer.log_tells_lookalikes :
    (∀ event ∈ Event.lookalikes, event.Readable) ∧
    ∃ writer silent log,
      (Observer.mk true {}).recordAll Event.lookalikes = (writer, log) ∧
      (Observer.mk false {}).recordAll Event.lookalikes = (silent, "") ∧
      silent.counters = writer.counters ∧
      textLines log = Event.lookalikes.map Event.line ++ [""] ∧
      (∀ text, Log.read? text = some (Event.lookalikes.map Event.entry) ↔ text = log) ∧
      (∀ others : List Event, (∀ event ∈ others, event.Readable) →
        ((Observer.mk true {}).recordAll others).2 = log →
          others.map Event.entry = Event.lookalikes.map Event.entry) ∧
      writer.counters.toList =
        (EventKind.all.map fun kind =>
          (Event.lookalikes.map Event.entry).countP (·.kind == kind.name)) ∧
      ((Observer.mk true {}).recordAll
        (Event.lookalikes.filter (·.kind.name != "unknown"))).1.counters = writer.counters :=
  ⟨by decide, Observer.log_tells Event.lookalikes (by decide)⟩

end StreamMux
