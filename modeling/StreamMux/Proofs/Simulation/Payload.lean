import StreamMux.Proofs.Connection.Sending
import StreamMux.Simulation.Session

/-!
# How far credit carries the payload of a stream

What a stream still owes is its payload less the credit that it was given. Chunks are written
whole and credit is clamped, but neither matters in the end: after a flush a stream has written
everything, or it waits for exactly what it owes (`Stream.Settled`), and each round of credit takes
the same off that (`Stream.Settled.round`). So what becomes of a stream of the script is a closed
form (`Simulation.lived_duties`).
-/

namespace StreamMux

/-- What is reported of a stream that is neither reset nor at its beginning or its end. -/
def Event.Steady (event : Event) : Prop := event.kind = .queued ∨ event.kind = .dispatched

namespace Stream

variable {stream : Stream} {owed : Int} {initial increment : Int32}

/-- A stream waits for its turn. Its payload is `owed` more than its credit, if that is more at
all. -/
structure Pending (owed : Int) (stream : Stream) : Prop where
  state : stream.state = .opened
  unreset : stream.resetCode = none
  waits : stream.queued.send = true
  covered : 0 ≤ stream.sendWindow.toInt
  short : max 0 ((totalSize stream.pendingData : Int) - stream.sendWindow.toInt) = max 0 owed
  bounded : (totalSize stream.pendingData : Int) ≤ maxWindow

structure Finished (stream : Stream) : Prop where
  state : stream.state = .halfClosedLocal
  unreset : stream.resetCode = none
  idle : stream.queued.send = false
  emptied : stream.pendingData = []

/-- A stream that was flushed waits only for credit. -/
inductive Settled (owed : Int) (stream : Stream) : Prop where
  | pending (short : 0 < owed) (pending : stream.Pending owed)
  | finished (paid : owed ≤ 0) (finished : stream.Finished)

theorem Pending.isClosed (pending : stream.Pending owed) : stream.isClosed = false := by
  rw [Stream.isClosed, pending.state]
  rfl

theorem Finished.isClosed (finished : stream.Finished) : stream.isClosed = false := by
  rw [Stream.isClosed, finished.state]
  rfl

theorem Settled.isClosed (settled : stream.Settled owed) : stream.isClosed = false := by
  cases settled with
  | pending _ pending => exact pending.isClosed
  | finished _ finished => exact finished.isClosed

/-- Of a stream that is not closed a call reports that it waits or is served, and nothing else. -/
theorem steady_events (stillOpen : stream.isClosed = false) (initial : Int32) (id : StreamId)
    (call : Call) : ∀ event ∈ stream.events initial id call, event.Steady := by
  intro event reported
  cases call with
  | send named chunk | reset named code | consume named count =>
    dsimp only [events] at reported
    split at reported
    · cases reported
    · rw [List.mem_singleton.1 reported]
      exact .inl rfl
  | flush =>
    simp only [events, flushEvents, wasCancelled, stillOpen, Bool.false_and, Bool.false_eq_true,
      if_false, List.nil_append, List.append_nil, List.mem_append] at reported
    rcases reported with window | ended | waits
    · split at window
      · rw [List.mem_singleton.1 window]
        exact .inr rfl
      · cases window
    · split at ended
      · rw [List.mem_singleton.1 ended]
        exact .inr rfl
      · cases ended
    · split at waits
      · rw [List.mem_singleton.1 waits]
        exact .inl rfl
      · cases waits
  | accept named | grant named increment | census => cases reported

/-- Credit takes off what is owed. Clamped credit still covers all payload. -/
theorem Pending.grant (pending : stream.Pending owed) (short : 0 < owed)
    (granted : 0 ≤ increment.toInt) :
    (stream.afterGrant increment).Pending (owed - increment.toInt) := by
  have window : (stream.afterGrant increment).sendWindow.toInt =
      min (stream.sendWindow.toInt + increment.toInt) maxWindow := toInt_grantWindow granted
  have covered := pending.covered
  have owes := pending.short
  have bounded := pending.bounded
  refine ⟨pending.state, pending.unreset, pending.waits, ?_, ?_, pending.bounded⟩
  · rw [window]
    unfold maxWindow
    omega
  · rw [window]
    show max 0 ((totalSize stream.pendingData : Int) - _) = _
    omega

/-- A turn writes everything, or leaves what is owed. -/
theorem Pending.served (pending : stream.Pending owed) (initial : Int32) :
    (stream.served initial).Settled owed := by
  have covered := pending.covered
  have owes := pending.short
  have bounded := pending.bounded
  have turn := takesTurn_served initial pending.waits pending.unreset
  have unreset := (resetCode_served initial stream).trans pending.unreset
  obtain ⟨written, split, longest, left⟩ := turn.written
  have emptied := (longest.rest_eq_nil_iff split).trans (fits_iff covered)
  have paid := (fits_iff covered).1 longest.fits
  have size := congrArg totalSize split
  rw [totalSize_append] at size
  by_cases enough : (totalSize stream.pendingData : Int) ≤ stream.sendWindow.toInt
  · have none := emptied.2 enough
    obtain ⟨state, idle⟩ := turn.ended none
    exact .finished (by omega) ⟨state, unreset, idle, none⟩
  · obtain ⟨state, waits⟩ := turn.blocked (mt emptied.1 enough)
    refine .pending (by omega) ⟨state.trans pending.state, unreset, waits, ?_, ?_, ?_⟩
    · omega
    · omega
    · omega

theorem Finished.grant (finished : stream.Finished) (increment : Int32) :
    (stream.afterGrant increment).Finished :=
  ⟨finished.state, finished.unreset, finished.idle, finished.emptied⟩

theorem Finished.served (finished : stream.Finished) (initial : Int32) :
    (stream.served initial).Finished := by
  have payload := stream.payload_served_of_idle initial finished.idle
  refine ⟨?_, (resetCode_served initial stream).trans finished.unreset, ?_,
    payload.1.trans finished.emptied⟩
  · exact (state_served initial stream).elim id (·.trans finished.state)
  · rw [queued_served, finished.idle]
    rfl

/-- A round of credit takes as much off what is owed. -/
theorem Settled.round (settled : stream.Settled owed) (granted : 0 ≤ increment.toInt)
    (initial : Int32) :
    ((stream.afterGrant increment).served initial).Settled (owed - increment.toInt) := by
  cases settled with
  | pending short pending => exact (pending.grant short granted).served initial
  | finished paid finished =>
    exact .finished (by omega) ((finished.grant increment).served initial)

/-- A stream that was flushed has written everything when it has ended its side. -/
theorem Settled.emptied_iff (settled : stream.Settled owed) :
    stream.pendingData = [] ↔ stream.state = .halfClosedLocal := by
  cases settled with
  | pending short pending =>
    have covered := pending.covered
    have owes := pending.short
    refine iff_of_false (fun emptied => ?_) fun ended => ?_
    · rw [emptied, totalSize_nil] at owes
      omega
    · rw [pending.state] at ended
      cases ended
  | finished paid finished => exact iff_of_true finished.emptied finished.state

end Stream

@[simp] theorem Chunk.size_filled (size : Nat) (byte : UInt8) :
    (Chunk.filled size byte).size = size :=
  Array.size_replicate

namespace Alone

variable {initial : Int32} {id : StreamId} {call : Call} {first : List Call} {stream : Stream}
  {holds holds' : Stream → Prop}

/-- Calls that ask for no stream do the same whatever the answers. -/
theorem run_append (quiet : ∀ call ∈ first, asks call = false) (second : List Call)
    (answers : List Answer) (stream : Option Stream) :
    run initial id (first ++ second) answers stream =
      let middle := run initial id first answers stream
      let last := run initial id second answers middle.1
      (last.1, middle.2 ++ last.2) := by
  induction first generalizing stream with
  | nil => rfl
  | cons call rest ih =>
    obtain ⟨asked, quiet⟩ := List.forall_mem_cons.1 quiet
    rw [List.cons_append, run_of_not_asks asked initial id _ false, ih quiet,
      run_of_not_asks asked initial id _ false]
    simp only [List.append_assoc]

theorem run_single (call : Call) (answers : List Answer) (stream : Stream) :
    run initial id [call] answers (some stream) =
      (stream.after? initial call, stream.events initial id call) := by
  simp only [run, step, List.append_nil]

/-- Where there is no stream, only calls that ask for one do anything. -/
theorem run_none (quiet : ∀ call ∈ first, asks call = false) (answers : List Answer) :
    run initial id first answers none = (none, []) := by
  induction first with
  | nil => rfl
  | cons call rest ih =>
    obtain ⟨asked, quiet⟩ := List.forall_mem_cons.1 quiet
    rw [run_of_not_asks asked initial id _ false, step_none asked, ih quiet]
    rfl

/-- A stream for which `holds` is there, and nothing was reported of an end. -/
def Keeps (holds : Stream → Prop) (done : Option Stream × List Event) : Prop :=
  (∃ stream, done.1 = some stream ∧ holds stream) ∧ ∀ event ∈ done.2, event.Steady

theorem keeps_nil (held : holds stream) (answers : List Answer) :
    Keeps holds (run initial id [] answers (some stream)) :=
  ⟨⟨stream, rfl, held⟩, List.forall_mem_nil _⟩

/-- A call on a stream that is not closed. -/
theorem keeps_call {later : Stream} (stillOpen : stream.isClosed = false)
    (after : stream.after? initial call = some later) (held : holds later)
    (answers : List Answer) : Keeps holds (run initial id [call] answers (some stream)) := by
  rw [run_single]
  exact ⟨⟨later, after, held⟩, stream.steady_events stillOpen initial id call⟩

/-- Calls one after the other. -/
theorem Keeps.append {answers : List Answer} {start : Option Stream} {second : List Call}
    (kept : Keeps holds (run initial id first answers start))
    (quiet : ∀ call ∈ first, asks call = false)
    (goesOn : ∀ stream, holds stream → Keeps holds' (run initial id second answers (some stream))) :
    Keeps holds' (run initial id (first ++ second) answers start) := by
  obtain ⟨⟨stream, there, held⟩, steady⟩ := kept
  obtain ⟨later, steady'⟩ := goesOn stream held
  rw [run_append quiet]
  dsimp only
  rw [there]
  exact ⟨later, List.forall_mem_append.2 ⟨steady, steady'⟩⟩

end Alone

namespace Stream

variable {stream : Stream} {window : Int32} {bytes : Nat}

/-- An open stream that nothing was written of yet, with `bytes` bytes of payload. -/
structure Filled (window : Int32) (bytes : Nat) (stream : Stream) : Prop where
  state : stream.state = .opened
  unreset : stream.resetCode = none
  credit : stream.sendWindow = window
  size : totalSize stream.pendingData = bytes
  waits : 0 < bytes → stream.queued.send = true

theorem filled_opened (window : Int32) :
    ({ withWindow window with state := .opened } : Stream).Filled window 0 :=
  ⟨rfl, rfl, rfl, rfl, nofun⟩

theorem Filled.isClosed (filled : stream.Filled window bytes) : stream.isClosed = false := by
  rw [Stream.isClosed, filled.state]
  rfl

theorem Filled.afterSend (filled : stream.Filled window bytes) (chunk : Chunk) :
    (stream.afterSend chunk).Filled window (bytes + chunk.size) := by
  rw [Stream.afterSend_of_open filled.isClosed]
  refine ⟨filled.state, filled.unreset, filled.credit, ?_, fun _ => rfl⟩
  show totalSize (stream.pendingData ++ [chunk]) = _
  rw [totalSize_append, filled.size]
  rfl

theorem Filled.afterConsume (filled : stream.Filled window bytes) (initial count : Int32) :
    (stream.afterConsume initial count).Filled window bytes := by
  obtain ⟨state, unreset, credit, size, waits⟩ := filled
  rw [Stream.afterConsume_eq]
  exact ⟨state, unreset, credit, size, waits⟩

/-- Before its first turn a stream owes what its window does not cover. -/
theorem Filled.pending (filled : stream.Filled window bytes) (some : 0 < bytes)
    (nonneg : 0 ≤ window.toInt) (bounded : (bytes : Int) ≤ maxWindow) :
    stream.Pending (bytes - window.toInt) := by
  refine ⟨filled.state, filled.unreset, filled.waits some, ?_, ?_, ?_⟩
  · rw [filled.credit]
    exact nonneg
  · rw [filled.size, filled.credit]
  · rw [filled.size]
    exact bounded

/-- A stream that is reset while it waits is dropped from the queue, its reset is written, and it is
removed. -/
theorem Filled.flushEvents_afterReset (filled : stream.Filled window bytes) (some : 0 < bytes)
    (code : UInt32) (id : StreamId) :
    (stream.afterReset code).isClosed = true ∧ (stream.afterReset code).flushEvents id =
      [.filtered .send "reset_before_write" id, .dispatched .reset "rst_stream" id,
        .closed id] := by
  have waits := wasCancelled_afterReset filled.isClosed code
  rw [filled.waits some] at waits
  have closed : (stream.afterReset code).isClosed = true := (Bool.and_eq_true_iff.1 waits).1
  have coded : (stream.afterReset code).resetCode.isNone = false := by
    rw [afterReset, filled.isClosed]
    rfl
  refine ⟨closed, ?_⟩
  simp only [flushEvents, waits, closed, coded, Bool.not_true, Bool.and_false, Bool.false_and]
  rfl

end Stream

theorem Event.Steady.countP_eq_zero {events : List Event}
    (steady : ∀ event ∈ events, event.Steady) (kind : EventKind)
    (other : kind ≠ .queued ∧ kind ≠ .dispatched) :
    events.countP (·.kind == kind) = 0 := by
  rw [List.countP_eq_zero]
  intro event reported same
  rw [beq_iff_eq] at same
  rw [← same] at other
  exact (steady event reported).elim other.1 other.2

namespace Simulation

open Alone

def payload (index : Nat) : Nat := (1 + index % 6) * chunkSize

def isReset (index : Nat) : Bool := index % 5 == 4

/-- What the `index`-th stream has left to send after the first flush and some rounds of credit, if
it is more than nothing. -/
def owed (window : Int32) (rounds index : Nat) : Int := payload index - (rounds + 1) * window.toInt

def round (window : Int32) (id : StreamId) : List Call := [.grant id window, .flush]

structure Lived (window : Int32) (rounds index : Nat) (done : Option Stream × List Event) :
    Prop where
  stays : isReset index = false → ∃ stream, done.1 = some stream ∧
    stream.Settled (owed window rounds index)
  goes : isReset index = true → done.1 = none
  opened : done.2.countP (·.kind == .opened) = 0
  filtered : done.2.countP (·.kind == .filtered) = (isReset index).toNat
  closed : done.2.countP (·.kind == .closed) = (isReset index).toNat

variable {window : Int32} {id : StreamId} {stream : Stream} {bytes : Nat}

theorem keeps_sends (filled : stream.Filled window bytes) (id : StreamId) (chunk : Chunk)
    (count : Nat) (answers : List Answer) :
    Keeps (Stream.Filled window (bytes + count * chunk.size))
      (run window id (List.replicate count (.send id chunk)) answers (some stream)) := by
  induction count generalizing stream bytes with
  | zero =>
    rw [Nat.zero_mul]
    exact keeps_nil filled answers
  | succ count ih =>
    rw [List.replicate_succ, ← List.singleton_append]
    have sent : Keeps _ (run window id [.send id chunk] answers (some stream)) :=
      keeps_call filled.isClosed rfl (filled.afterSend chunk) answers
    refine sent.append (List.forall_mem_singleton.2 rfl) fun later filled' => ?_
    have more := ih filled'
    rw [Nat.succ_mul, Nat.add_comm (count * chunk.size), ← Nat.add_assoc]
    exact more

/-- The calls on the `index`-th stream but for its reset. -/
def business (index : Nat) (id : StreamId) : List Call :=
  List.replicate (1 + index % 6) (.send id (.filled chunkSize (.ofNat index))) ++
    [.consume id (.ofNat (index % 3 * chunkSize + chunkSize))]

theorem keeps_business (window : Int32) (index : Nat) (id : StreamId) (answers : List Answer) :
    Keeps (Stream.Filled window (payload index))
      (run window id (business index id) answers
        (some { Stream.withWindow window with state := .opened })) := by
  have sent := keeps_sends (Stream.filled_opened window) id (.filled chunkSize (.ofNat index))
    (1 + index % 6) answers
  rw [Chunk.size_filled, Nat.zero_add] at sent
  refine sent.append (fun call member => ?_) fun stream filled => ?_
  · rw [List.eq_of_mem_replicate member]
    rfl
  · exact keeps_call filled.isClosed rfl (filled.afterConsume window _) answers

theorem owed_succ (window : Int32) (rounds index : Nat) :
    owed window (rounds + 1) index = owed window rounds index - window.toInt := by
  have more : ((rounds + 1 : Nat) + 1 : Int) * window.toInt =
      (rounds + 1) * window.toInt + window.toInt := by
    rw [Int.add_mul, Int.one_mul]
    rfl
  rw [owed, owed, more]
  omega

theorem quiet_business (index : Nat) (id : StreamId) :
    ∀ call ∈ business index id, asks call = false := by
  intro call member
  rcases List.mem_append.1 member with sends | consumes
  · rw [List.eq_of_mem_replicate sends]
    rfl
  · rw [List.mem_singleton.1 consumes]
    rfl

theorem quiet_rounds (window : Int32) (id : StreamId) (rounds : Nat) :
    ∀ call ∈ (List.replicate rounds (round window id)).flatten, asks call = false := by
  intro call member
  obtain ⟨calls, replicated, listed⟩ := List.mem_flatten.1 member
  rw [List.eq_of_mem_replicate replicated, round] at listed
  rcases List.mem_pair.1 listed with rfl | rfl <;> rfl

/-- Rounds of credit, one after the other. -/
theorem keeps_rounds (nonneg : 0 ≤ window.toInt) (index start rounds : Nat)
    (settled : stream.Settled (owed window start index)) (id : StreamId) (answers : List Answer) :
    Keeps (Stream.Settled (owed window (start + rounds) index))
      (run window id (List.replicate rounds (round window id)).flatten answers (some stream)) := by
  induction rounds generalizing start stream with
  | zero => exact keeps_nil settled answers
  | succ rounds ih =>
    have granted : (stream.afterGrant window).isClosed = false := settled.isClosed
    have served := settled.round nonneg window
    rw [← owed_succ] at served
    have flushed : (stream.afterGrant window).after? window .flush =
        some ((stream.afterGrant window).served window) := by
      rw [Stream.after?, granted]
      rfl
    have once : Keeps (Stream.Settled (owed window (start + 1) index))
        (run window id (round window id) answers (some stream)) := by
      have grant : Keeps (stream.afterGrant window = ·)
          (run window id [.grant id window] answers (some stream)) :=
        keeps_call settled.isClosed rfl rfl answers
      refine grant.append (List.forall_mem_singleton.2 rfl) fun later same => ?_
      rw [← same]
      exact keeps_call granted flushed served answers
    rw [List.replicate_succ, List.flatten_cons]
    refine once.append ?_ fun later settled' => ?_
    · simp [round, asks]
    · have more := ih (start + 1) settled'
      rw [Nat.add_assoc, Nat.add_comm 1] at more
      exact more

/-- What the `index`-th stream is asked to do after it was opened, with rounds of credit. -/
def duties (window : Int32) (rounds index : Nat) (id : StreamId) : List Call :=
  Session.traffic index id ++ .flush :: (List.replicate rounds (round window id)).flatten

theorem payload_pos (index : Nat) : 0 < payload index := by
  unfold payload chunkSize
  omega

theorem payload_le (index : Nat) : payload index ≤ 98304 := by
  have few : index % 6 < 6 := Nat.mod_lt index (by decide)
  unfold payload chunkSize
  omega

/-- A stream of the script that is not reset is flushed, and is then given credit. -/
theorem keeps_duties (nonneg : 0 ≤ window.toInt) (rounds index : Nat)
    (stays : isReset index = false) (id : StreamId) (answers : List Answer) :
    Keeps (Stream.Settled (owed window rounds index))
      (run window id (duties window rounds index id) answers
        (some { Stream.withWindow window with state := .opened })) := by
  have traffic : Session.traffic index id = business index id := by
    have kept : ¬index % 5 = 4 := beq_eq_false_iff_ne.1 stays
    rw [Session.traffic, if_neg kept, List.append_nil]
    rfl
  rw [duties, traffic, ← List.singleton_append, ← List.append_assoc]
  have flushed : Keeps (Stream.Settled (owed window 0 index))
      (run window id (business index id ++ [.flush]) answers
        (some { Stream.withWindow window with state := .opened })) := by
    refine (keeps_business window index id answers).append (quiet_business index id) ?_
    intro stream filled
    have bounded := payload_le index
    have pending := filled.pending (payload_pos index) nonneg (by unfold maxWindow; omega)
    have settled := pending.served window
    have after : stream.after? window .flush = some (stream.served window) := by
      rw [Stream.after?, filled.isClosed]
      rfl
    refine keeps_call filled.isClosed after ?_ answers
    rw [owed]
    simpa using settled
  have quiet : ∀ call ∈ business index id ++ [.flush], asks call = false :=
    List.forall_mem_append.2 ⟨quiet_business index id, List.forall_mem_singleton.2 rfl⟩
  refine flushed.append quiet fun stream settled => ?_
  have more := keeps_rounds nonneg index 0 rounds settled id answers
  rw [Nat.zero_add] at more
  exact more

/-- A stream of the script that is reset is gone after the first flush. -/
theorem run_duties_of_reset (window : Int32) (rounds index : Nat) (goes : isReset index = true)
    (id : StreamId) (answers : List Answer) :
    ∃ events : List Event, (∀ event ∈ events, event.Steady) ∧
      run window id (duties window rounds index id) answers
        (some { Stream.withWindow window with state := .opened }) =
      (none, events ++ [.filtered .send "reset_before_write" id,
        .dispatched .reset "rst_stream" id, .closed id]) := by
  have traffic : Session.traffic index id = business index id ++ [.reset id cancelCode] := by
    have last : index % 5 = 4 := eq_of_beq goes
    rw [Session.traffic, if_pos last]
    rfl
  obtain ⟨⟨stream, there, filled⟩, steady⟩ := keeps_business window index id answers
  obtain ⟨closed, flushed⟩ :=
    filled.flushEvents_afterReset (payload_pos index) cancelCode id
  have reported : (stream.afterReset cancelCode).events window id .flush = _ := flushed
  have gone : (stream.afterReset cancelCode).after? window .flush = none := by
    rw [Stream.after?, closed]
    rfl
  have single (call : Call) (asked : asks call = false) : ∀ one ∈ [call], asks one = false :=
    List.forall_mem_singleton.2 asked
  refine ⟨_ ++ _, List.forall_mem_append.2 ⟨steady,
    stream.steady_events filled.isClosed window id (.reset id cancelCode)⟩, ?_⟩
  rw [duties, traffic, List.append_assoc, run_append (quiet_business index id)]
  dsimp only
  rw [there, List.singleton_append, ← List.singleton_append, run_append (single _ rfl)]
  dsimp only
  rw [run_single, Stream.after?, ← List.singleton_append, run_append (single _ rfl)]
  dsimp only
  rw [run_single, gone, run_none (quiet_rounds window id rounds), reported]
  simp only [List.append_assoc, List.append_nil]

/-- The life of the `index`-th stream of the script after it was opened. -/
theorem lived_duties (nonneg : 0 ≤ window.toInt) (rounds index : Nat) (id : StreamId)
    (answers : List Answer) :
    Lived window rounds index (run window id (duties window rounds index id) answers
      (some { Stream.withWindow window with state := .opened })) := by
  cases reset : isReset index with
  | true =>
    obtain ⟨events, steady, ran⟩ := run_duties_of_reset window rounds index reset id answers
    have opened := Event.Steady.countP_eq_zero steady .opened (by decide)
    have filtered := Event.Steady.countP_eq_zero steady .filtered (by decide)
    have closed := Event.Steady.countP_eq_zero steady .closed (by decide)
    rw [ran]
    refine ⟨fun stays => ?_, fun _ => rfl, ?_, ?_, ?_⟩
    · rw [reset] at stays
      cases stays
    · rw [List.countP_append, opened]
      rfl
    · rw [List.countP_append, filtered, reset]
      rfl
    · rw [List.countP_append, closed, reset]
      rfl
  | false =>
    obtain ⟨stays, steady⟩ := keeps_duties nonneg rounds index reset id answers
    refine ⟨fun _ => stays, fun goes => ?_, ?_, ?_, ?_⟩
    · rw [reset] at goes
      cases goes
    · exact Event.Steady.countP_eq_zero steady _ (by decide)
    · rw [reset]
      exact Event.Steady.countP_eq_zero steady _ (by decide)
    · rw [reset]
      exact Event.Steady.countP_eq_zero steady _ (by decide)

end Simulation

end StreamMux
