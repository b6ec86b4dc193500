import StreamMux.Proofs.Connection.Tally

/-!
# Receive credit is given back

A stream that is not closed has more than half of its receive window left or waits for its window
to be advertised (`Stream.Credited`): whatever the calls, the half is never used up without notice.
A flush fills up the windows that wait, those of closed streams apart, and no others
(`Connection.Advertises`).
-/

namespace StreamMux

/-- Half of a window that is not negative, rounded down. -/
theorem toInt_half {window : Int32} (nonneg : 0 ≤ window.toInt) :
    (window / 2).toInt = window.toInt / 2 := by
  have bound := window.toInt_lt
  have two : (2 : Int32).toInt = 2 := by decide
  rw [Int32.toInt_div, two, Int.tdiv_eq_ediv_of_nonneg nonneg]
  apply Int.bmod_eq_of_le <;> omega

theorem half_lt {window : Int32} (positive : 1 ≤ window.toInt) : window / 2 < window := by
  rw [Int32.lt_iff_toInt_lt, toInt_half (by omega)]
  omega

namespace Stream

variable {initial : Int32} {stream later : Stream} {call : Call}

/-- More than half of the full window is left, unless the stream is closed or waits for its window
to be advertised. -/
def Credited (initial : Int32) (stream : Stream) : Prop :=
  stream.isClosed = false → stream.queued.windowUpdate = false → initial / 2 < stream.recvWindow

theorem credited_opened (positive : 1 ≤ initial.toInt) :
    ({ withWindow initial with state := .opened } : Stream).Credited initial :=
  fun _ _ => half_lt positive

theorem Credited.afterSend (credited : stream.Credited initial) (chunk : Chunk) :
    (stream.afterSend chunk).Credited initial := by
  unfold Stream.afterSend
  split
  · exact credited
  · exact fun stillOpen unqueued => credited stillOpen unqueued

/-- A stream that is reset is closed. -/
theorem Credited.afterReset (credited : stream.Credited initial) (code : UInt32) :
    (stream.afterReset code).Credited initial := by
  unfold Stream.afterReset
  split
  · exact credited
  · exact nofun

/-- Whatever was left before, a stream that has no more than half of its window after a read waits
from then on. -/
theorem credited_afterConsume (initial count : Int32) (stream : Stream) :
    (stream.afterConsume initial count).Credited initial := by
  rw [afterConsume_eq]
  intro stillOpen unqueued
  have before : stream.isClosed = false := stillOpen
  simp only [before, Bool.or_false, Bool.or_eq_false_iff, Bool.not_eq_false',
    decide_eq_true_eq] at unqueued
  exact unqueued.2

/-- A flush fills up the window of a stream that waits for it and is not closed. -/
theorem recvWindow_served (initial : Int32) (stream : Stream) :
    (stream.served initial).recvWindow =
      if stream.queued.windowUpdate && !stream.isClosed then initial else stream.recvWindow := by
  rw [served, prepared_eq, turned]
  dsimp only
  split <;> rfl

theorem Credited.served (credited : stream.Credited initial) (positive : 1 ≤ initial.toInt)
    (stillOpen : stream.isClosed = false) : initial / 2 < (stream.served initial).recvWindow := by
  rw [recvWindow_served, stillOpen, Bool.not_false, Bool.and_true]
  cases waits : stream.queued.windowUpdate with
  | true => exact half_lt positive
  | false => exact credited stillOpen waits

/-- No call uses up the half of a window without notice. -/
theorem Credited.after? (credited : stream.Credited initial) (positive : 1 ≤ initial.toInt)
    (left : stream.after? initial call = some later) : later.Credited initial := by
  unfold Stream.after? at left
  cases call with
  | send named chunk =>
    cases left
    exact credited.afterSend chunk
  | reset named code =>
    cases left
    exact credited.afterReset code
  | consume named count =>
    cases left
    exact credited_afterConsume initial count stream
  | grant named increment =>
    cases left
    exact credited
  | flush =>
    dsimp only at left
    split at left
    · cases left
    · rename_i stillOpen
      cases left
      exact fun _ _ => credited.served positive (Bool.not_eq_true _ ▸ stillOpen)
  | accept named | census =>
    cases left
    exact credited

end Stream

namespace Connection

/-- A flush that answers `next` and `events` advertises the windows of the streams of `line` that
are not closed, in this order, and fills them up. Then no stream waits for its window, and each has
more than half of it. -/
structure Advertises (conn : Connection) (line : List StreamId) (next : Connection)
    (events : List Event) : Prop where
  windows : ∀ id stream, conn.store.lookup id = some stream → stream.isClosed = false →
    ∃ later, next.store.lookup id = some later ∧
      later.recvWindow = if id ∈ line then conn.config.initialWindowSize else stream.recvWindow
  reported : events.filter (Event.isOf .dispatched .windowUpdate) =
    (line.filter fun id => (conn.store.lookup id).any (!·.isClosed)).map
      (.dispatched .windowUpdate "window_update")
  unqueued : ∀ id later, next.store.lookup id = some later → later.queued.windowUpdate = false
  credited : ∀ id later, next.store.lookup id = some later →
    conn.config.initialWindowSize.toInt / 2 < later.recvWindow.toInt
  empty : next.queues.windowUpdate = .empty

variable {conn : Connection} {plain : Plain}

/-- In every state that calls can reach the streams are as they are on their own. -/
theorem Models.keeps_run (models : conn.Models plain) (orderly : plain.Orderly)
    {holds : Stream → Prop}
    (opens : holds { Stream.withWindow plain.config.initialWindowSize with state := .opened })
    (keeps : ∀ {stream later : Stream} {call : Call}, holds stream →
      stream.after? plain.config.initialWindowSize call = some later → holds later)
    (held : ∀ id, ∀ one ∈ plain.streams id, holds one) (calls : List Call) (id : StreamId) :
    ∀ one ∈ (plain.run calls).1.streams id, holds one := by
  obtain ⟨answers, -, shown⟩ := models.view_run orderly calls id
  rw [(Prod.mk.inj shown).1]
  exact Alone.run_keeps opens keeps (held id) id _ answers

/-- Of the events of a flush, those that advertise a window are the streams that waited for it and
are not closed. -/
theorem Plain.Orderly.flush_dispatched (orderly : plain.Orderly) (sound : plain.Sound) :
    plain.flush.2.filter (Event.isOf .dispatched .windowUpdate) =
      (plain.select .windowUpdate (!·.isClosed)).map
        (.dispatched .windowUpdate "window_update") := by
  simpa using orderly.flush_isOf sound .dispatched .windowUpdate

/-- A flush of a connection whose streams have their credit. -/
theorem Models.advertises (models : conn.Models plain) (orderly : plain.Orderly)
    (positive : 1 ≤ plain.config.initialWindowSize.toInt)
    (credited : ∀ id, ∀ one ∈ plain.streams id, one.Credited plain.config.initialWindowSize) :
    ∃ next events, conn.flush = .ok (next, events) ∧
      conn.Advertises (plain.lines.get .windowUpdate) next events := by
  obtain ⟨next, flushed, models'⟩ := models.flush
  have sound := models.sound
  -- A stream that is there after the flush was not closed, and was served.
  have left {id : StreamId} {later : Stream} (found : next.store.lookup id = some later) :
      ∃ stream, plain.streams id = some stream ∧ stream.isClosed = false ∧
        later.unlinked = stream.served plain.config.initialWindowSize := by
    have after := models'.streams_of_lookup found
    rw [orderly.streams_flush sound] at after
    obtain ⟨stream, before, served⟩ := Option.bind_eq_some_iff.1 after
    rw [Stream.after?] at served
    split at served
    · cases served
    · rename_i stillOpen
      exact ⟨stream, before, Bool.not_eq_true _ ▸ stillOpen, (Option.some.inj served).symm⟩
  refine ⟨next, _, flushed, fun id stream found stillOpen => ?_, ?_, fun id later found => ?_,
    fun id later found => ?_, models'.queue_eq_empty sound.lines_flush.2.2⟩
  · have before := models.streams_of_lookup found
    have open' : stream.unlinked.isClosed = false := stillOpen
    obtain ⟨later, after, same⟩ := models.lookup_flush_of_open orderly models' found open'
    refine ⟨later, after, ?_⟩
    have window : later.unlinked.recvWindow = _ := congrArg Stream.recvWindow same
    have waits : stream.unlinked.queued.windowUpdate = true ↔
        id ∈ plain.lines.get .windowUpdate := sound.flagged before .windowUpdate
    rw [Stream.recvWindow_served, open', Bool.not_false, Bool.and_true] at window
    simp only [waits, ← models.config] at window
    exact window
  · rw [orderly.flush_dispatched sound, Plain.select]
    congr 1
    apply List.filter_congr
    intro id _
    rw [models.streams_eq, Option.any_map]
    rfl
  · obtain ⟨stream, -, -, same⟩ := left found
    have queued := congrArg Stream.queued same
    rw [Stream.queued_served] at queued
    exact congrArg PerQueue.windowUpdate queued
  · obtain ⟨stream, before, stillOpen, same⟩ := left found
    have half := (credited id stream before).served positive stillOpen
    rw [← same, Int32.lt_iff_toInt_lt, toInt_half (by omega)] at half
    rw [models.config]
    exact half

/-- In every state that calls can reach each stream that is not closed has more than half of its
receive window left or waits for it to be advertised; and a flush advertises the windows that wait,
in the order of the queue. Whether a read takes more off a window than it holds makes no
difference. -/
theorem Fresh.recvWindow_of_run (fresh : conn.Fresh)
    (positive : 1 ≤ conn.config.initialWindowSize.toInt) (calls : List Call) :
    ∃ after events, conn.run calls = .ok (after, events) ∧
      (∀ id stream, after.store.lookup id = some stream → stream.state ≠ .closed →
        stream.queued.windowUpdate = false →
          conn.config.initialWindowSize.toInt / 2 < stream.recvWindow.toInt) ∧
      ∃ line keys, after.store.Names line keys ∧
        after.queues.windowUpdate.Owns .windowUpdate after.store keys ∧
        ∃ next more, after.flush = .ok (next, more) ∧ after.Advertises line next more := by
  have models := fresh.models_fresh
  have orderly := Plain.orderly_fresh conn.config
  obtain ⟨after, ran, models'⟩ := models.run calls
  have orderly' := models.orderly_run orderly calls
  have config : (Plain.run { config := conn.config } calls).1.config = conn.config :=
    Plain.config_run _ calls
  have credited : ∀ id, ∀ one ∈ (Plain.run { config := conn.config } calls).1.streams id,
      one.Credited conn.config.initialWindowSize :=
    models.keeps_run orderly (Stream.credited_opened positive)
      (fun credited left => credited.after? positive left) (by simp) calls
  generalize (Plain.run { config := conn.config } calls).1 = plain at *
  rw [← config] at positive credited ⊢
  obtain ⟨keys, names, owns⟩ := models'.tracks.owns .windowUpdate
  refine ⟨after, _, ran, fun id stream found stillOpen unqueued => ?_, _, keys, names, owns,
    models'.advertises orderly' positive credited⟩
  have open' : stream.isClosed = false := beq_eq_false_iff_ne.2 stillOpen
  have half := credited id _ (models'.streams_of_lookup found) open' unqueued
  rw [Int32.lt_iff_toInt_lt, toInt_half (by omega)] at half
  exact half

/-- The window of the stream of id 1 is to be advertised, that of id 3 is just above its half, and
the stream of id 5 is reset while it waits. -/
def halvesUsed : List Call :=
  [.accept (.ofRaw 1), .accept (.ofRaw 3), .accept (.ofRaw 5), .consume (.ofRaw 5) 7,
    .consume (.ofRaw 1) 5, .consume (.ofRaw 3) 4, .reset (.ofRaw 5) 8]

theorem recvWindow_of_run_halvesUsed :
    Fresh { config := { initialWindowSize := 10 } } ∧ 1 ≤ (10 : Int32).toInt ∧
      ∃ after events,
        run { config := { initialWindowSize := 10 } } halvesUsed = .ok (after, events) ∧
        (∀ id stream, after.store.lookup id = some stream → stream.state ≠ .closed →
          stream.queued.windowUpdate = false → (10 : Int32).toInt / 2 < stream.recvWindow.toInt) ∧
        ∃ line keys, after.store.Names line keys ∧
          after.queues.windowUpdate.Owns .windowUpdate after.store keys ∧
          ∃ next more, after.flush = .ok (next, more) ∧ after.Advertises line next more :=
  ⟨.mk _ .empty, by decide, Fresh.recvWindow_of_run (.mk _ .empty) (by decide) halvesUsed⟩

end Connection

end StreamMux
