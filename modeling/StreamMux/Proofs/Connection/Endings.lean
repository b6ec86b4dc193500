import StreamMux.Proofs.Connection.Sending
import StreamMux.Proofs.Connection.Sights

/-!
# How a stream ends its side

A stream ends its side when a flush writes the last of its payload. The end is not final: a chunk
that is sent later is taken, queues the stream again, and ends its side once more. What comes late
in one life of a stream is recorded (`Endings.note`). The end is reported at most once more than the
stream was queued again (`Endings.Balanced`), so it is final exactly in the lives in which nothing
comes late (`Connection.Fresh.endings_of_run`).
-/

namespace StreamMux

/-- Whether the event tells that a stream ended its side. -/
def Event.isEnd (event : Event) : Bool :=
  event.isOf .dispatched .send && event.reason == "end_stream"

@[simp] theorem Event.isEnd_dispatched (queue : QueueKind) (reason : String) (id : StreamId) :
    (dispatched queue reason id).isEnd = (queue == .send && reason == "end_stream") := by
  rw [isEnd, isOf_dispatched]
  rfl

/-- How a stream ended its side in one life. -/
structure Endings where
  /-- Whether the stream has ended its side. -/
  half : Bool := false
  /-- How often it was reported that it did. -/
  ended : Nat := 0
  /-- The chunks that were sent on it while it was half closed. -/
  late : List Chunk := []
  /-- The chunks that sends added to its payload since it ended its side. -/
  added : List Chunk := []
  /-- How often sends put it in the queue for sending since then. -/
  requeued : Nat := 0

namespace Endings

def hear (endings : Endings) (events : List Event) : Endings :=
  { endings with ended := endings.ended + events.countP Event.isEnd }

def enter (endings : Endings) (before after : Stream) : Call → Endings
  | .send _ chunk =>
    { endings with
      half := endings.half || after.state == .halfClosedLocal
      late := if before.state == .halfClosedLocal then endings.late ++ [chunk] else endings.late
      added :=
        if endings.half then
          endings.added ++ after.pendingData.drop before.pendingData.length
        else endings.added
      requeued :=
        endings.requeued + (endings.half && !before.queued.send && after.queued.send).toNat }
  | .accept _ | .reset _ _ | .consume _ _ | .grant _ _ | .flush | .census =>
    { endings with half := endings.half || after.state == .halfClosedLocal }

/-- Records a sight of a stream. A new record begins with a new stream. -/
def note (endings : Endings) (sight : Sight) : Endings :=
  match sight.before with
  | none => if sight.after.isSome then {} else endings
  | some before =>
    match sight.after with
    | none => endings.hear sight.events
    | some after => (endings.hear sight.events).enter before after sight.call

/-- The links of a stream are not recorded. -/
theorem note_unlinked (endings : Endings) (sight : Sight) :
    endings.note sight.unlinked = endings.note sight := by
  obtain ⟨call, before, after, events⟩ := sight
  cases before with
  | none => cases after <;> rfl
  | some before =>
    cases after with
    | none => rfl
    | some after => cases call <;> rfl

/-- What comes late is taken and queues the stream again, and only then its side ends again. -/
structure Balanced (endings : Endings) : Prop where
  added : endings.added = endings.late
  requeued_le : endings.requeued ≤ endings.late.length
  requeued_pos : endings.late ≠ [] → 0 < endings.requeued
  ended_le : endings.ended ≤ endings.requeued + 1

structure Ends (endings : Endings) (stream : Stream) : Prop where
  half : endings.half = true
  /-- Each time it was queued again its side has ended again, unless it still waits. -/
  ended : endings.ended + stream.queued.send.toNat = endings.requeued + 1
  idle : endings.late = [] → stream.pendingData = [] ∧ stream.queued.send = false

/-- The record of a stream that is there: nothing before it ends its side. -/
structure Tallies (endings : Endings) (stream : Stream) : Prop where
  untouched : stream.isClosed = false → stream.state ≠ .halfClosedLocal → endings = {}
  ends : stream.state = .halfClosedLocal → endings.Ends stream

variable {endings : Endings} {initial : Int32} {stream later : Stream} {call : Call}

/-- The end of a side is final exactly where nothing comes late. -/
theorem Balanced.late_eq_nil_iff (balanced : endings.Balanced) :
    endings.late = [] ↔ endings.ended ≤ 1 ∧ endings.added = [] ∧ endings.requeued = 0 := by
  obtain ⟨added, requeued_le, -, ended_le⟩ := balanced
  rw [added]
  constructor
  · intro nothing
    rw [nothing, List.length_nil] at requeued_le
    exact ⟨by omega, nothing, by omega⟩
  · exact fun final => final.2.1

/-- A stream whose state, payload and place in the queue for sending stay keeps its record. -/
theorem Tallies.congr (tallies : endings.Tallies stream) (state : later.state = stream.state)
    (data : later.pendingData = stream.pendingData)
    (waits : later.queued.send = stream.queued.send) : endings.Tallies later := by
  constructor
  · unfold Stream.isClosed
    rw [state]
    exact tallies.untouched
  · rw [state]
    intro half
    obtain ⟨half, ended, idle⟩ := tallies.ends half
    rw [← waits] at ended
    rw [← data, ← waits] at idle
    exact ⟨half, ended, idle⟩

/-- Of a closed stream the record says nothing more. -/
theorem tallies_closed (closed : stream.isClosed = true) (endings : Endings) :
    endings.Tallies stream := by
  have state : stream.state = .closed := beq_iff_eq.1 closed
  constructor
  · intro stillOpen
    rw [closed] at stillOpen
    cases stillOpen
  · intro half
    rw [state] at half
    cases half

/-- A call other than a send that ends no side leaves the record as it is. -/
theorem enter_of_state (other : ∀ named chunk, call ≠ .send named chunk)
    (tallies : endings.Tallies stream)
    (state : later.state = .halfClosedLocal → stream.state = .halfClosedLocal) :
    endings.enter stream later call = endings := by
  have half : (endings.half || later.state == .halfClosedLocal) = endings.half := by
    rw [Bool.or_eq_left_iff_imp, beq_iff_eq]
    exact fun ended => (tallies.ends (state ended)).half
  cases call with
  | send named chunk => exact absurd rfl (other named chunk)
  | accept named | reset named code | consume named count | grant named increment | flush
  | census => rw [enter, half]

/-- The record after a chunk came late on a stream that was queued for sending already or not. -/
def again (endings : Endings) (chunk : Chunk) (queued : Bool) : Endings :=
  { endings with
    late := endings.late ++ [chunk]
    added := endings.added ++ [chunk]
    requeued := endings.requeued + (!queued).toNat }

/-- A stream that was queued already was queued again for an earlier chunk that came late. -/
theorem Balanced.again (balanced : endings.Balanced) {queued : Bool}
    (waited : queued = true → endings.late ≠ []) (chunk : Chunk) :
    (endings.again chunk queued).Balanced := by
  obtain ⟨added, requeued_le, requeued_pos, ended_le⟩ := balanced
  constructor
  · exact congrArg (· ++ [chunk]) added
  · have one := Bool.toNat_le (!queued)
    have length : (endings.late ++ [chunk]).length = endings.late.length + 1 := by simp
    dsimp only [Endings.again]
    omega
  · intro _
    cases queued with
    | true => exact requeued_pos (waited rfl)
    | false => exact Nat.succ_pos _
  · dsimp only [Endings.again]
    omega

/-- What is sent on a stream that has ended its side is taken, and the stream waits to send it. -/
theorem Ends.send (ends : endings.Ends stream) (half : stream.state = .halfClosedLocal)
    (id : StreamId) (chunk : Chunk) :
    endings.enter stream (stream.afterSend chunk) (.send id chunk) =
        endings.again chunk stream.queued.send ∧
      (endings.again chunk stream.queued.send).Ends (stream.afterSend chunk) := by
  have stillOpen : stream.isClosed = false := by
    rw [Stream.isClosed, half]
    rfl
  rw [Stream.afterSend_of_open stillOpen]
  refine ⟨?_, ends.half, ?_, fun nothing => ?_⟩
  · simp [enter, again, half, ends.half, Stream.setQueued, PerQueue.set]
  · have ended := ends.ended
    show endings.ended + 1 = endings.requeued + (!stream.queued.send).toNat + 1
    cases queued : stream.queued.send with
    | true =>
      rw [queued] at ended
      exact ended
    | false =>
      rw [queued] at ended
      exact congrArg (· + 1) ended
  · exact absurd nothing (by simp [again])

/-- What is sent on a stream that has not ended its side, or is closed, is not recorded. -/
theorem enter_afterSend (tallies : endings.Tallies stream)
    (before : stream.state ≠ .halfClosedLocal) (id : StreamId) (chunk : Chunk) :
    endings.enter stream (stream.afterSend chunk) (.send id chunk) = endings ∧
      endings.Tallies (stream.afterSend chunk) := by
  have early : (stream.state == .halfClosedLocal) = false := beq_eq_false_iff_ne.2 before
  cases closed : stream.isClosed with
  | true =>
    have same : stream.afterSend chunk = stream := if_pos closed
    rw [same]
    refine ⟨?_, tallies⟩
    simp [enter, early, Bool.and_assoc]
  | false =>
    have nothing : endings = {} := tallies.untouched closed before
    constructor
    · simp [nothing, enter, early]
    · refine ⟨fun _ _ => nothing, fun half => ?_⟩
      rw [Stream.state_afterSend] at half
      exact absurd half before

/-- A flush reports that a stream ended its side when nothing is left of what it had to send. -/
theorem countP_flushEvents_isEnd (id : StreamId) (stream : Stream) :
    (stream.flushEvents id).countP Event.isEnd =
      (stream.queued.send && stream.resetCode.isNone &&
        stream.payloadAfterFlush.1.isEmpty).toNat := by
  have filtered : (Event.filtered .send "reset_before_write" id).isEnd = false := by
    simp [Event.isEnd, beq_eq_decide]
  have waits : (Event.queued .send "blocked_on_window" id).isEnd = false := by
    simp [Event.isEnd, beq_eq_decide]
  have closed : (Event.closed id).isEnd = false := by simp [Event.isEnd]
  simp [Stream.countP_flushEvents, filtered, waits, closed, beq_eq_decide]

def flushed (endings : Endings) (id : StreamId) (before after : Stream) : Endings :=
  (endings.hear (before.flushEvents id)).enter before after .flush

/-- A stream that has nothing to send keeps its record in a flush. -/
theorem Tallies.served_of_idle (tallies : endings.Tallies stream)
    (idle : stream.queued.send = false) (initial : Int32) (id : StreamId) :
    endings.flushed id stream (stream.served initial) = endings ∧
      endings.Tallies (stream.served initial) := by
  have state : (stream.served initial).state = stream.state := by
    rw [Stream.served, Stream.prepared_eq, Stream.turned, idle]
    rfl
  have waits : (stream.served initial).queued.send = stream.queued.send := by
    rw [Stream.queued_served, idle]
    rfl
  constructor
  · rw [flushed, hear, countP_flushEvents_isEnd, idle]
    exact enter_of_state (by simp) tallies fun half => state ▸ half
  · exact tallies.congr state (Stream.payload_served_of_idle initial idle).1 waits

/-- A stream that has its turn in a flush ends its side or goes on waiting. -/
theorem Tallies.served_of_turn (tallies : endings.Tallies stream) (balanced : endings.Balanced)
    (waits : stream.queued.send = true) (unreset : stream.resetCode = none)
    (stillOpen : stream.isClosed = false) (initial : Int32) (id : StreamId) :
    (endings.flushed id stream (stream.served initial)).Balanced ∧
      (endings.flushed id stream (stream.served initial)).Tallies (stream.served initial) := by
  have turn := Stream.takesTurn_served initial waits unreset
  have data : (stream.served initial).pendingData = stream.payloadAfterFlush.1 :=
    congrArg Prod.fst (stream.payload_served initial)
  have reported : (stream.flushEvents id).countP Event.isEnd =
      (stream.served initial).pendingData.isEmpty.toNat := by
    rw [countP_flushEvents_isEnd, waits, unreset, data]
    rfl
  cases left : (stream.served initial).pendingData with
  | nil =>
    obtain ⟨state, done⟩ := turn.ended left
    have flushed' : endings.flushed id stream (stream.served initial) =
        { endings with half := true, ended := endings.ended + 1 } := by
      rw [flushed, hear, enter, reported, left, state]
      simp
    rw [flushed']
    have once : endings.ended = endings.requeued := by
      by_cases half : stream.state = .halfClosedLocal
      · have ended := (tallies.ends half).ended
        rw [waits] at ended
        exact Nat.succ.inj ended
      · rw [tallies.untouched stillOpen half]
    refine ⟨⟨balanced.added, balanced.requeued_le, balanced.requeued_pos, ?_⟩,
      fun _ early => absurd state early, fun _ => ⟨rfl, ?_, fun _ => ⟨left, done⟩⟩⟩
    · rw [once]
    · rw [done, once]
      rfl
  | cons chunk rest =>
    obtain ⟨state, still⟩ := turn.blocked (by rw [left]; exact List.cons_ne_nil _ _)
    have flushed' : endings.flushed id stream (stream.served initial) = endings := by
      rw [flushed, hear, reported, left]
      exact enter_of_state (by simp) tallies fun half => state ▸ half
    rw [flushed']
    refine ⟨balanced, fun _ early => tallies.untouched stillOpen (state ▸ early), fun half => ?_⟩
    obtain ⟨half, ended, idle⟩ := tallies.ends (state ▸ half)
    rw [waits, ← still] at ended
    refine ⟨half, ended, fun nothing => ?_⟩
    rw [(idle nothing).2] at waits
    cases waits

/-- A call that names a stream, a send apart, closes it or leaves what is told of its sending. -/
theorem after?_of_other (calm : call ≠ .flush) (other : ∀ named chunk, call ≠ .send named chunk)
    (left : stream.after? initial call = some later) :
    later.isClosed = true ∨ later.state = stream.state ∧
      later.pendingData = stream.pendingData ∧ later.queued.send = stream.queued.send := by
  unfold Stream.after? at left
  cases call with
  | flush => exact absurd rfl calm
  | send named chunk => exact absurd rfl (other named chunk)
  | reset named code =>
    cases left
    unfold Stream.afterReset
    split
    · exact .inr ⟨rfl, rfl, rfl⟩
    · exact .inl rfl
  | consume named count =>
    cases left
    rw [Stream.afterConsume_eq]
    exact .inr ⟨rfl, rfl, rfl⟩
  | grant named increment | accept named | census =>
    cases left
    exact .inr ⟨rfl, rfl, rfl⟩

/-- Such a call adds nothing to the record. -/
theorem Tallies.other (tallies : endings.Tallies stream) (calm : call ≠ .flush)
    (other : ∀ named chunk, call ≠ .send named chunk)
    (left : stream.after? initial call = some later) :
    endings.enter stream later call = endings ∧ endings.Tallies later := by
  rcases after?_of_other calm other left with closed | ⟨state, data, waits⟩
  · refine ⟨enter_of_state other tallies fun half => ?_, tallies_closed closed endings⟩
    rw [Stream.isClosed, half] at closed
    cases closed
  · exact ⟨enter_of_state other tallies fun half => state ▸ half, tallies.congr state data waits⟩

/-- Whatever is sent on a stream, its record goes on. -/
theorem Tallies.send (tallies : endings.Tallies stream) (balanced : endings.Balanced)
    (id : StreamId) (chunk : Chunk) :
    (endings.enter stream (stream.afterSend chunk) (.send id chunk)).Balanced ∧
      (endings.enter stream (stream.afterSend chunk) (.send id chunk)).Tallies
        (stream.afterSend chunk) := by
  by_cases half : stream.state = .halfClosedLocal
  · obtain ⟨entered, ends⟩ := (tallies.ends half).send half id chunk
    have waited : stream.queued.send = true → endings.late ≠ [] := by
      intro queued nothing
      rw [((tallies.ends half).idle nothing).2] at queued
      cases queued
    have state : (stream.afterSend chunk).state = .halfClosedLocal := by
      rw [Stream.state_afterSend, half]
    rw [entered]
    exact ⟨balanced.again waited chunk, fun _ early => absurd state early, fun _ => ends⟩
  · obtain ⟨same, tallies'⟩ := enter_afterSend tallies half id chunk
    rw [same]
    exact ⟨balanced, tallies'⟩

theorem balanced_new : ({} : Endings).Balanced :=
  ⟨rfl, Nat.le_refl 0, fun late => absurd rfl late, Nat.zero_le 1⟩

/-- A stream that is removed does not end its side. -/
theorem countP_events_isEnd_of_removed (coherent : stream.Coherent)
    (removed : stream.after? initial call = none) (id : StreamId) :
    (stream.events initial id call).countP Event.isEnd = 0 := by
  obtain ⟨rfl, closed⟩ := Stream.after?_eq_none removed
  rw [Stream.events, countP_flushEvents_isEnd, coherent.isNone_resetCode, closed, Bool.not_true,
    Bool.and_false, Bool.false_and]
  rfl

/-- Where a stream is there before and after a call, its record goes on. -/
theorem Tallies.after? (tallies : endings.Tallies stream) (balanced : endings.Balanced)
    (coherent : stream.Coherent) (left : stream.after? initial call = some later) (id : StreamId)
    (accepted : Bool) :
    (endings.note (Alone.sight initial id accepted call (some stream))).Balanced ∧
      (endings.note (Alone.sight initial id accepted call (some stream))).Tallies later := by
  have noted : endings.note (Alone.sight initial id accepted call (some stream)) =
      (endings.hear (stream.events initial id call)).enter stream later call := by
    simp only [note, Alone.sight, Alone.step, left]
  rw [noted]
  by_cases calm : call = .flush
  · subst calm
    rw [Stream.after?] at left
    split at left
    · cases left
    · rename_i stillOpen
      rw [Bool.not_eq_true] at stillOpen
      have unreset : stream.resetCode = none := by
        have coded := coherent.isNone_resetCode
        rw [stillOpen] at coded
        exact Option.isNone_iff_eq_none.1 coded
      cases left
      cases waits : stream.queued.send with
      | true => exact tallies.served_of_turn balanced waits unreset stillOpen initial id
      | false =>
        obtain ⟨same, tallies'⟩ := tallies.served_of_idle waits initial id
        rw [← same] at balanced tallies'
        exact ⟨balanced, tallies'⟩
  · have silent : (stream.events initial id call).countP Event.isEnd = 0 := by
      apply Stream.countP_events_of_calm calm
      intro event queued
      rw [Event.isEnd, Event.isOf, queued]
      rfl
    rw [hear, silent, Nat.add_zero]
    by_cases sends : ∃ named chunk, call = .send named chunk
    · obtain ⟨named, chunk, rfl⟩ := sends
      cases left
      exact tallies.send balanced named chunk
    · obtain ⟨same, tallies'⟩ := tallies.other calm
        (fun named chunk send => sends ⟨named, chunk, send⟩) left
      rw [← same] at balanced tallies'
      exact ⟨balanced, tallies'⟩

/-- A call that concerns a stream leaves its record in order. -/
theorem Balanced.step {before : Option Stream} (balanced : endings.Balanced)
    (there : ∀ stream ∈ before, stream.Coherent ∧ endings.Tallies stream) (initial : Int32)
    (id : StreamId) (accepted : Bool) (call : Call) :
    (endings.note (Alone.sight initial id accepted call before)).Balanced ∧
      ∀ later ∈ (Alone.step initial id accepted call before).1, later.Coherent ∧
        (endings.note (Alone.sight initial id accepted call before)).Tallies later := by
  have coherent := Alone.step_keeps (Stream.coherent_opened initial)
    (fun coherent left => coherent.after? left) (fun one found => (there one found).1) id accepted
    call
  cases before with
  | none =>
    rcases Alone.step_none_cases initial id accepted call with absent | opened
    · have noted : endings.note (Alone.sight initial id accepted call none) = endings := by
        simp [note, Alone.sight, absent]
      rw [noted, absent]
      exact ⟨balanced, fun later none => absurd none (Option.not_mem_none later)⟩
    · have noted : endings.note (Alone.sight initial id accepted call none) = {} := by
        simp [note, Alone.sight, opened]
      rw [opened] at coherent
      rw [noted, opened]
      refine ⟨balanced_new, fun later same => ⟨coherent later same, fun _ _ => rfl, ?_⟩⟩
      cases same
      intro half
      cases half
  | some stream =>
    have tallies := (there stream rfl).2
    cases left : stream.after? initial call with
    | some later =>
      have after : (Alone.step initial id accepted call (some stream)).1 = some later := left
      obtain ⟨balanced', tallies'⟩ :=
        tallies.after? balanced (there stream rfl).1 left id accepted
      rw [after] at coherent ⊢
      refine ⟨balanced', fun one same => ⟨coherent one same, ?_⟩⟩
      cases same
      exact tallies'
    | none =>
      have after : (Alone.step initial id accepted call (some stream)).1 = none := left
      have noted : endings.note (Alone.sight initial id accepted call (some stream)) =
          endings.hear (stream.events initial id call) := by
        simp only [note, Alone.sight, after]
        rfl
      rw [noted, hear, countP_events_isEnd_of_removed (there stream rfl).1 left, Nat.add_zero,
        after]
      exact ⟨balanced, fun later none => absurd none (Option.not_mem_none later)⟩

end Endings

namespace Connection

variable {conn : Connection}

/-- Whatever is called for, what is recorded of each life of a stream balances: what was sent on it
while it was half closed was taken and queued it again, and the end of its side was reported at most
once more than it was queued again. So the end is reported at most once, and nothing is added or
queued after it, in exactly the lives in which nothing was sent on the stream while it was half
closed. In the others its side has ended again each time, unless the stream still waits to send. -/
theorem Fresh.endings_of_run (fresh : conn.Fresh) (calls : List Call) (id : StreamId) :
    ∃ after events sights endings, conn.run calls = .ok (after, events) ∧
      conn.watch id calls = .ok sights ∧ sights.foldl Endings.note {} = endings ∧
      endings.Balanced ∧
      (endings.late = [] ↔ endings.ended ≤ 1 ∧ endings.added = [] ∧ endings.requeued = 0) ∧
      ∀ stream, after.store.lookup id = some stream → endings.Tallies stream := by
  obtain ⟨after, events, sights, ran, watched, balanced, there⟩ :=
    fresh.record_of_run calls id ({} : Endings)
      (fun endings before => endings.Balanced ∧
        ∀ stream ∈ before, stream.Coherent ∧ endings.Tallies stream)
      Endings.note_unlinked
      (fun accepted call _ held =>
        held.1.step held.2 conn.config.initialWindowSize id accepted call)
      ⟨Endings.balanced_new, fun stream absent => absurd absent (Option.not_mem_none stream)⟩
  refine ⟨after, events, sights, _, ran, watched, rfl, balanced, balanced.late_eq_nil_iff, ?_⟩
  intro stream found
  have tallies := (there stream.unlinked (by rw [found]; rfl)).2
  exact tallies.congr rfl rfl rfl

/-- The stream of id 1 ends its side twice, and is to end it again; that of id 3 ends it once. -/
def sendsAgain : List Call :=
  [.accept (.ofRaw 1), .accept (.ofRaw 3), .send (.ofRaw 1) (.filled 4 0),
    .send (.ofRaw 3) (.filled 1 0), .flush, .send (.ofRaw 1) (.filled 2 1), .flush,
    .send (.ofRaw 1) (.filled 2 2)]

theorem endings_of_run_sendsAgain :
    Fresh { config := { initialWindowSize := 10 } } ∧
      ∃ after events sights endings,
        run { config := { initialWindowSize := 10 } } sendsAgain = .ok (after, events) ∧
        watch { config := { initialWindowSize := 10 } } (.ofRaw 1) sendsAgain = .ok sights ∧
        sights.foldl Endings.note {} = endings ∧ endings.Balanced ∧
        (endings.late = [] ↔ endings.ended ≤ 1 ∧ endings.added = [] ∧ endings.requeued = 0) ∧
        (∀ stream, after.store.lookup (.ofRaw 1) = some stream → endings.Tallies stream) ∧
        endings.ended = 2 ∧ endings.late = [.filled 2 1, .filled 2 2] ∧ endings.requeued = 2 := by
  have fresh : Fresh { config := { initialWindowSize := 10 } } := .mk _ .empty
  obtain ⟨after, events, sights, endings, ran, watched, recorded, balanced, final, tallies⟩ :=
    fresh.endings_of_run sendsAgain (.ofRaw 1)
  have seen : watch { config := { initialWindowSize := 10 } } (.ofRaw 1) sendsAgain = .ok _ := rfl
  obtain rfl := Except.ok.inj (watched.symm.trans seen)
  obtain rfl := recorded
  exact ⟨fresh, after, events, _, _, ran, watched, rfl, balanced, final, tallies, rfl, rfl, rfl⟩

/-- A stream that has ended its side takes a second chunk, is queued again for it, and ends its side
a second time. -/
theorem not_final_sentAgain :
    ∃ half events after queued last reported one two,
      run { config := .defaults } [.accept (.ofRaw 1), .send (.ofRaw 1) (.filled 10 0), .flush] =
        .ok (half, events) ∧
      half.store.lookup (.ofRaw 1) = some one ∧ one.state = .halfClosedLocal ∧
      half.send (.ofRaw 1) (.filled 20 0) = .ok (after, queued) ∧
      after.store.lookup (.ofRaw 1) = some two ∧ two.pendingData = [.filled 20 0] ∧
      two.queued.send = true ∧ after.flush = .ok (last, reported) ∧
      (events ++ queued ++ reported).filter Event.isEnd =
        [.dispatched .send "end_stream" (.ofRaw 1), .dispatched .send "end_stream" (.ofRaw 1)] ∧
      (events ++ queued ++ reported).filter (·.kind == .closed) = [] := by
  exact ⟨_, _, _, _, _, _, _, _, rfl, rfl, rfl, rfl, rfl, rfl, rfl, rfl, by decide, by decide⟩

end Connection

end StreamMux
