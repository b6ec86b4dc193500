import Mathlib.Algebra.BigOperators.Group.Finset.Piecewise
import StreamMux.Event.Observer
import StreamMux.Proofs.Connection.Log

/-!
# The events of a run are a ledger

The store and the queues after a run are what its events add up to: the streams that were opened
and not removed, the turns for sending that neither ended nor were dropped, and the resets that were
not written (`Event.Tallied`). So it is for the events of each stream, which tell its lives
(`Alone.Logged.tallied`), and the events of a run are those of its streams taken together
(`Event.tallied_of_each`).
-/

namespace StreamMux

open Finset

namespace Event

variable {events more : List Event} {id : StreamId} {p : Event → Bool} {ids : Finset StreamId}

def isOf (kind : EventKind) (queue : QueueKind) (event : Event) : Bool :=
  event.kind == kind && event.within queue

/-- Whether the event puts a stream in the queue for sending because it has data to send. -/
def isReady (event : Event) : Bool := event.isOf .queued .send && event.reason == "data_ready"

@[simp] theorem isOf_opened (kind : EventKind) (queue : QueueKind) (id : StreamId) :
    (opened id).isOf kind queue = false := by
  rw [isOf, within_opened, Bool.and_false]

@[simp] theorem isOf_closed (kind : EventKind) (queue : QueueKind) (id : StreamId) :
    (closed id).isOf kind queue = false := by
  rw [isOf, within_closed, Bool.and_false]

@[simp] theorem isOf_queued (kind : EventKind) (queue other : QueueKind) (reason : String)
    (id : StreamId) :
    (queued other reason id).isOf kind queue = (.queued == kind && other == queue) := by
  rw [isOf, within_queued]
  rfl

@[simp] theorem isOf_dispatched (kind : EventKind) (queue other : QueueKind) (reason : String)
    (id : StreamId) :
    (dispatched other reason id).isOf kind queue = (.dispatched == kind && other == queue) := by
  rw [isOf, within_dispatched]
  rfl

@[simp] theorem isOf_filtered (kind : EventKind) (queue other : QueueKind) (reason : String)
    (id : StreamId) :
    (filtered other reason id).isOf kind queue = (.filtered == kind && other == queue) := by
  rw [isOf, within_filtered]
  rfl

@[simp] theorem isReady_opened (id : StreamId) : (opened id).isReady = false := by
  rw [isReady, isOf_opened, Bool.false_and]

@[simp] theorem isReady_closed (id : StreamId) : (closed id).isReady = false := by
  rw [isReady, isOf_closed, Bool.false_and]

@[simp] theorem isReady_queued (queue : QueueKind) (reason : String) (id : StreamId) :
    (queued queue reason id).isReady = (queue == .send && reason == "data_ready") := by
  rw [isReady, isOf_queued]
  rfl

@[simp] theorem isReady_dispatched (queue : QueueKind) (reason : String) (id : StreamId) :
    (dispatched queue reason id).isReady = false := by
  rw [isReady, isOf_dispatched]
  rfl

@[simp] theorem isReady_filtered (queue : QueueKind) (reason : String) (id : StreamId) :
    (filtered queue reason id).isReady = false := by
  rw [isReady, isOf_filtered]
  rfl

/-- Reports that are alike for every stream are chosen all together or not at all. -/
theorem filter_map_alike {p : Event → Bool} {report : StreamId → Event} {yes : Bool}
    (alike : ∀ id, p (report id) = yes) (ids : List StreamId) :
    (ids.map report).filter p = if yes then ids.map report else [] := by
  rw [List.filter_map]
  cases yes <;> simp [Function.comp_def, alike]

/-- The events add up to so many streams in the store, in the queue for sending and in the queue
for resets. -/
structure Tallied (events : List Event) (live sending resetting : Nat) : Prop where
  live : events.countP (·.kind == .opened) = events.countP (·.kind == .closed) + live
  send : events.countP isReady =
    events.countP (isOf .dispatched .send) + events.countP (isOf .filtered .send) + sending
  reset : events.countP (isOf .queued .reset) = events.countP (isOf .dispatched .reset) + resetting

theorem Tallied.append {live sending resetting live' sending' resetting' : Nat}
    (tallied : Tallied events live sending resetting)
    (tallied' : Tallied more live' sending' resetting') :
    Tallied (events ++ more) (live + live') (sending + sending') (resetting + resetting') := by
  obtain ⟨opened, sends, resets⟩ := tallied
  obtain ⟨opened', sends', resets'⟩ := tallied'
  constructor
  · rw [List.countP_append, List.countP_append, opened, opened']
    omega
  · rw [List.countP_append, List.countP_append, List.countP_append, sends, sends']
    omega
  · rw [List.countP_append, List.countP_append, resets, resets']
    omega

/-- A stream is opened. -/
theorem Tallied.open {sending resetting : Nat} (tallied : Tallied events 0 sending resetting)
    (id : StreamId) : Tallied (opened id :: events) 1 sending resetting := by
  obtain ⟨live, send, reset⟩ := tallied
  constructor
  · simpa [List.countP_cons, opened] using live
  · simpa [List.countP_cons] using send
  · simpa [List.countP_cons] using reset

/-- A stream that is in no queue is removed. -/
theorem Tallied.close {live sending resetting : Nat}
    (tallied : Tallied events (live + 1) sending resetting) (id : StreamId) :
    Tallied (events ++ [closed id]) live sending resetting := by
  obtain ⟨opened, send, reset⟩ := tallied
  constructor
  · simpa [List.countP_append, closed, Nat.add_assoc, Nat.add_comm 1] using opened
  · simpa [List.countP_append] using send
  · simpa [List.countP_append] using reset

/-- What holds of events of a queue only is counted among these. -/
theorem countP_within {queue : QueueKind}
    (within : ∀ event, p event = true → event.within queue = true) (events : List Event) :
    (events.filter (Event.within queue)).countP p = events.countP p := by
  rw [List.countP_filter]
  refine List.countP_congr fun event _ => ?_
  rw [Bool.and_eq_true]
  exact ⟨And.left, fun holds => ⟨holds, within event holds⟩⟩

theorem within_of_isOf {kind : EventKind} {queue : QueueKind} (event : Event)
    (isOf : event.isOf kind queue = true) : event.within queue = true :=
  (Bool.and_eq_true_iff.1 isOf).2

theorem within_of_isReady (event : Event) (ready : event.isReady = true) :
    event.within .send = true :=
  within_of_isOf event (Bool.and_eq_true_iff.1 ready).1

/-- Events are counted stream by stream. -/
theorem countP_eq_sum (p : Event → Bool) (known : ∀ event ∈ events, event.stream ∈ ids) :
    events.countP p = ∑ id ∈ ids, (events.filter (about id)).countP p := by
  induction events with
  | nil => simp
  | cons event rest ih =>
    have one : (if p event = true then 1 else 0) =
        ∑ id ∈ ids, if (p event && about id event) = true then 1 else 0 := by
      cases holds : p event with
      | false => simp
      | true => simp [about, known event List.mem_cons_self]
    simp only [List.countP_filter] at ih ⊢
    simp only [List.countP_cons, sum_add_distrib]
    rw [ih fun other member => known other (List.mem_cons_of_mem _ member), one]

/-- What the events of each stream add up to, the events of all add up to in all. -/
theorem tallied_of_each (known : ∀ event ∈ events, event.stream ∈ ids)
    {live sending resetting : StreamId → Nat}
    (each : ∀ id, Tallied (events.filter (about id)) (live id) (sending id) (resetting id)) :
    Tallied events (∑ id ∈ ids, live id) (∑ id ∈ ids, sending id) (∑ id ∈ ids, resetting id) := by
  constructor
  · rw [countP_eq_sum _ known, countP_eq_sum _ known, ← sum_add_distrib]
    exact sum_congr rfl fun id _ => (each id).live
  · rw [countP_eq_sum _ known, countP_eq_sum (isOf .dispatched .send) known,
      countP_eq_sum (isOf .filtered .send) known, ← sum_add_distrib, ← sum_add_distrib]
    exact sum_congr rfl fun id _ => (each id).send
  · rw [countP_eq_sum _ known, countP_eq_sum (isOf .dispatched .reset) known, ← sum_add_distrib]
    exact sum_congr rfl fun id _ => (each id).reset

/-- Streams that are listed once are as many as the list is long. -/
theorem sum_listed {line : List StreamId} (distinct : line.Nodup) (known : ∀ id ∈ line, id ∈ ids)
    {listed : StreamId → Bool} (same : ∀ id, id ∈ line ↔ listed id = true) :
    ∑ id ∈ ids, (listed id).toNat = line.length := by
  have these : ids.filter (listed · = true) = line.toFinset := by
    ext id
    rw [mem_filter, List.mem_toFinset, same]
    exact ⟨And.right, fun member => ⟨known id ((same id).2 member), member⟩⟩
  rw [← List.toFinset_card_of_nodup distinct, ← these, card_filter]
  exact sum_congr rfl fun id _ => by cases listed id <;> rfl

end Event

variable {id : StreamId} {waits : Bool} {resets events : List Event}

/-- The turns for sending that started are those that came to an end and the one that goes on. -/
theorem SendTurns.tally (turns : SendTurns id waits events) :
    events.countP Event.isReady = events.countP (Event.isOf .dispatched .send) +
      events.countP (Event.isOf .filtered .send) + waits.toNat := by
  induction turns with
  | none => rfl
  | ready turns ih => simp [List.countP_append, ih]
  | blocked turns ih => simp [List.countP_append, ih]
  | ended turns ih => simp [List.countP_append, ih, Nat.add_right_comm _ 1]
  | filtered turns ih => simp [List.countP_append, ih, Nat.add_assoc]

/-- While a stream is live, none is opened or removed under its id. -/
theorem Life.countP_eq_zero (life : Life id waits resets events) {p : Event → Bool}
    (ends : ∀ event, p event = true → event.kind = .opened ∨ event.kind = .closed) :
    events.countP p = 0 := by
  rw [List.countP_eq_zero]
  intro event member holds
  have inside := life.inside event member
  exact (ends event holds).elim inside.opens inside.closes

theorem Life.tallied (life : Life id waits resets events) (owed : Nat)
    (reset : resets.countP (Event.isOf .queued .reset) =
      resets.countP (Event.isOf .dispatched .reset) + owed) :
    Event.Tallied events 0 waits.toNat owed := by
  constructor
  · rw [life.countP_eq_zero fun event opened => .inl (eq_of_beq opened),
      life.countP_eq_zero fun event closed => .inr (eq_of_beq closed)]
  · have turns := life.send.tally
    rwa [Event.countP_within Event.within_of_isReady, Event.countP_within Event.within_of_isOf,
      Event.countP_within Event.within_of_isOf] at turns
  · rwa [← life.reset, Event.countP_within Event.within_of_isOf,
      Event.countP_within Event.within_of_isOf] at reset

theorem Lives.tallied (lived : Lives id events) : Event.Tallied events 0 0 0 := by
  induction lived with
  | none => exact ⟨rfl, rfl, rfl⟩
  | next lived life ih => exact (ih.append ((life.tallied 0 rfl).open id)).close id

/-- What the events that name a stream add up to is where the stream is. -/
theorem Alone.Logged.tallied {stream : Option Stream} (logged : Logged id stream events) :
    Event.Tallied events stream.isSome.toNat (stream.any (·.queued.get .send)).toNat
      (stream.any (·.queued.get .reset)).toNat := by
  cases stream with
  | none => exact Lives.tallied logged
  | some one =>
    obtain ⟨past, life, lived, recounted, rfl⟩ := logged
    have lives : Event.Tallied life 0 one.queued.send.toNat one.queued.reset.toNat :=
      Life.tallied recounted _ (by cases one.queued.reset <;> rfl)
    simpa [PerQueue.get] using lived.tallied.append (lives.open id)

namespace Connection

variable {conn : Connection} {plain : Plain}

/-- A queue has the streams that are flagged for it. -/
theorem Plain.Sound.mem_line (sound : plain.Sound) (kind : QueueKind) :
    id ∈ plain.lines.get kind ↔ (plain.streams id).any (·.queued.get kind) = true := by
  cases found : plain.streams id with
  | none =>
    refine ⟨fun member => ?_, nofun⟩
    obtain ⟨stream, present⟩ := sound.present member
    rw [found] at present
    cases present
  | some stream => exact (sound.flagged found kind).symm

/-- What a flush reports of one kind and one queue. -/
theorem Plain.Orderly.flush_isOf (orderly : plain.Orderly) (sound : plain.Sound) (kind : EventKind)
    (queue : QueueKind) :
    plain.flush.2.filter (Event.isOf kind queue) =
      (if .filtered == kind && .send == queue then
        plain.cancelled.map (.filtered .send "reset_before_write") else []) ++
      (if .dispatched == kind && .reset == queue then
        plain.closing.map (.dispatched .reset "rst_stream") else []) ++
      (if .dispatched == kind && .windowUpdate == queue then
        (plain.select .windowUpdate (!·.isClosed)).map
          (.dispatched .windowUpdate "window_update") else []) ++
      ((if .dispatched == kind && .send == queue then
        plain.finished.map (.dispatched .send "end_stream") else []) ++
      (if .queued == kind && .send == queue then
        plain.waiting.map (.queued .send "blocked_on_window") else [])) := by
  rw [orderly.flush_events sound]
  simp only [List.filter_append]
  rw [Event.filter_map_alike (Event.isOf_filtered kind queue _ _),
    Event.filter_map_alike (Event.isOf_dispatched kind queue _ _),
    Event.filter_map_alike (Event.isOf_dispatched kind queue _ _),
    Event.filter_map_alike (Event.isOf_dispatched kind queue _ _),
    Event.filter_map_alike (Event.isOf_queued kind queue _ _),
    Event.filter_map_alike (Event.isOf_closed kind queue), if_neg Bool.false_ne_true,
    List.append_nil]

/-- What the events of all streams add up to is the store and the queues. -/
theorem Models.tallied (models : conn.Models plain)
    (logged : ∀ id, Alone.Logged id (plain.streams id) (events.filter (Event.about id))) :
    ∃ sending resetting, conn.queues.send.Owns .send conn.store sending ∧
      conn.queues.reset.Owns .reset conn.store resetting ∧
      Event.Tallied events conn.store.size sending.length resetting.length := by
  obtain ⟨sending, sends, owns⟩ := models.tracks.owns .send
  obtain ⟨resetting, resets, owns'⟩ := models.tracks.owns .reset
  let live := conn.store.ids.keys
  let named := events.map Event.stream ++ live ++ plain.lines.get .send ++ plain.lines.get .reset
  have known : ∀ event ∈ events, event.stream ∈ named.toFinset := fun event member =>
    List.mem_toFinset.2 (by simp [named, List.mem_map_of_mem member])
  have distinct : live.Nodup := Std.ExtTreeMap.nodup_keys
  have listed (id : StreamId) : id ∈ live ↔ (plain.streams id).isSome = true := by
    rw [← models.contains_eq, Std.ExtTreeMap.mem_keys]
    exact Std.ExtTreeMap.contains_iff_mem.symm
  have total := Event.tallied_of_each known fun id => (logged id).tallied
  rw [Event.sum_listed distinct (fun id member => List.mem_toFinset.2 (by simp [named, member]))
      listed,
    Event.sum_listed (models.sound.distinct .send)
      (fun id member => List.mem_toFinset.2 (by simp [named, member]))
      fun id => models.sound.mem_line .send,
    Event.sum_listed (models.sound.distinct .reset)
      (fun id member => List.mem_toFinset.2 (by simp [named, member]))
      fun id => models.sound.mem_line .reset,
    Std.ExtTreeMap.length_keys, sends.length_eq, resets.length_eq] at total
  exact ⟨sending, resetting, owns, owns', total⟩

/-- The events that name a stream tell its lives. -/
theorem Fresh.logged_run (fresh : conn.Fresh) (calls : List Call) (id : StreamId) :
    Alone.Logged id ((Plain.run { config := conn.config } calls).1.streams id)
      ((Plain.run { config := conn.config } calls).2.filter (Event.about id)) := by
  obtain ⟨answers, -, shown⟩ :=
    fresh.models_fresh.view_run (Plain.orderly_fresh conn.config) calls id
  obtain ⟨stream, reported⟩ := Prod.mk.inj shown
  rw [stream, reported]
  exact Alone.logged_run ..

/-- After any calls the events that name a stream tell its lives, and all events together add up to
the streams in the store, in the queue for sending and in the queue for resets. -/
theorem Fresh.ledger_of_run (fresh : conn.Fresh) (calls : List Call) :
    ∃ after events, conn.run calls = .ok (after, events) ∧
      (∀ id, Alone.Logged id (after.store.lookup id) (events.filter (Event.about id))) ∧
      (∃ sending resetting, after.queues.send.Owns .send after.store sending ∧
        after.queues.reset.Owns .reset after.store resetting ∧
        Event.Tallied events after.store.size sending.length resetting.length) ∧
      ∀ writes, ((Observer.mk writes {}).recordAll events).1.counters.opened =
        ((Observer.mk writes {}).recordAll events).1.counters.closed + after.store.size := by
  obtain ⟨after, ran, models'⟩ := fresh.models_fresh.run calls
  have logged := fresh.logged_run calls
  obtain ⟨sending, resetting, owns, owns', tallied⟩ := models'.tallied logged
  refine ⟨after, _, ran, fun id => ?_, ⟨sending, resetting, owns, owns', tallied⟩, fun writes => ?_⟩
  · have told := logged id
    rw [models'.streams_eq] at told
    cases found : after.store.lookup id with
    | none =>
      rw [found] at told
      exact told
    | some stream =>
      rw [found] at told
      exact told
  · rw [Observer.counters_recordAll, Counters.foldl_add]
    simpa using tallied.live

/-- The stream of id 1 is blocked, reset while it waits, removed, and opened and reset again; that
of id 3 sends what it has. -/
def livesAndTurns : List Call :=
  [.accept (.ofRaw 1), .accept (.ofRaw 3), .send (.ofRaw 1) (.filled 6 0),
    .send (.ofRaw 1) (.filled 6 1), .send (.ofRaw 3) (.filled 2 0), .flush,
    .consume (.ofRaw 1) 9, .reset (.ofRaw 1) 8, .flush, .accept (.ofRaw 1),
    .send (.ofRaw 1) (.filled 1 0), .reset (.ofRaw 1) 2]

theorem ledger_of_run_livesAndTurns :
    Fresh { config := { initialWindowSize := 10 } } ∧
      ∃ after events,
        run { config := { initialWindowSize := 10 } } livesAndTurns = .ok (after, events) ∧
        (∀ id, Alone.Logged id (after.store.lookup id) (events.filter (Event.about id))) ∧
        (∃ sending resetting, after.queues.send.Owns .send after.store sending ∧
          after.queues.reset.Owns .reset after.store resetting ∧
          Event.Tallied events after.store.size sending.length resetting.length) ∧
        ∀ writes, ((Observer.mk writes {}).recordAll events).1.counters.opened =
          ((Observer.mk writes {}).recordAll events).1.counters.closed + after.store.size :=
  ⟨.mk _ .empty, Fresh.ledger_of_run (.mk _ .empty) _⟩

end Connection

end StreamMux
