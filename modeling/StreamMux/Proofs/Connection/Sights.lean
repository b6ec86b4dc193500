import StreamMux.Proofs.Connection.Lifecycle

/-!
# One stream, call by call

A run shows of a stream what each call that concerns it finds, leaves and reports
(`Connection.watch`). These sights follow one from the other as the stream does on its own
(`Models.watch_run`), so that whatever is kept in a record of them call by call holds at the end
(`Alone.Shows.keeps`).
-/

namespace StreamMux

/-- What a call shows of one stream: the stream before and after it, and the events about it. -/
structure Sight where
  call : Call
  before : Option Stream
  after : Option Stream
  events : List Event

def Sight.unlinked (sight : Sight) : Sight :=
  { sight with
    before := sight.before.map Stream.unlinked
    after := sight.after.map Stream.unlinked }

namespace Stream

/-- A flush reports each thing about a stream once, on a condition of its own. -/
theorem countP_flushEvents (p : Event → Bool) (id : StreamId) (stream : Stream) :
    (stream.flushEvents id).countP p =
      let turn := stream.queued.send && stream.resetCode.isNone
      let ends := stream.payloadAfterFlush.1.isEmpty
      (stream.wasCancelled && p (.filtered .send "reset_before_write" id)).toNat +
        (stream.isClosed && p (.dispatched .reset "rst_stream" id)).toNat +
        (stream.queued.windowUpdate && !stream.isClosed &&
          p (.dispatched .windowUpdate "window_update" id)).toNat +
        ((turn && ends && p (.dispatched .send "end_stream" id)).toNat +
          (turn && !ends && p (.queued .send "blocked_on_window" id)).toNat) +
        (stream.isClosed && p (.closed id)).toNat := by
  have reported (condition : Bool) (report : Event) :
      (if condition then [report] else []).countP p = (condition && p report).toNat := by
    cases condition <;> cases chosen : p report <;> simp [chosen]
  simp only [flushEvents, List.countP_append, reported]

/-- Any other call reports about a stream only that it was queued. -/
theorem countP_events_of_calm {call : Call} (calm : call ≠ .flush) {p : Event → Bool}
    (outside : ∀ event : Event, event.kind = .queued → p event = false) (initial : Int32)
    (id : StreamId) (stream : Stream) : (stream.events initial id call).countP p = 0 := by
  rw [List.countP_eq_zero]
  intro event reported
  rw [Bool.not_eq_true]
  apply outside
  cases call with
  | send named chunk | reset named code | consume named count =>
    dsimp only [events] at reported
    split at reported
    · cases reported
    · rw [List.mem_singleton] at reported
      rw [reported]
      rfl
  | accept named | grant named increment | census => cases reported
  | flush => exact absurd rfl calm

end Stream

namespace Alone

def sight (initial : Int32) (id : StreamId) (accepted : Bool) (call : Call)
    (before : Option Stream) : Sight :=
  { call, before
    after := (step initial id accepted call before).1
    events := (step initial id accepted call before).2 }

/-- Where there is no stream, there is none after a call or a new one. -/
theorem step_none_cases (initial : Int32) (id : StreamId) (accepted : Bool) (call : Call) :
    (step initial id accepted call none).1 = none ∨
      (step initial id accepted call none).1 =
        some { Stream.withWindow initial with state := .opened } := by
  cases call with
  | accept named =>
    cases accepted with
    | true => exact .inr rfl
    | false => exact .inl rfl
  | send named chunk | reset named code | consume named count | grant named increment | flush
  | census => exact .inl rfl

/-- The sights of the stream of `id` on its own, from one state of it to another. -/
inductive Shows (initial : Int32) (id : StreamId) :
    Option Stream → List Sight → Option Stream → Prop where
  | nil (stream : Option Stream) : Shows initial id stream [] stream
  | cons {before last : Option Stream} {later : List Sight} (accepted : Bool) (call : Call)
    (rest : Shows initial id (step initial id accepted call before).1 later last) :
    Shows initial id before (sight initial id accepted call before :: later) last

/-- What each sight keeps of a record and the stream holds after all of them. -/
theorem Shows.keeps {Record : Type} {note : Record → Sight → Record}
    {holds : Record → Option Stream → Prop} {initial : Int32} {id : StreamId}
    {before last : Option Stream} {sights : List Sight} {record : Record}
    (shows : Shows initial id before sights last)
    (step_keeps : ∀ {record before} accepted, ∀ call ∈ sights.map Sight.call, holds record before →
      holds (note record (sight initial id accepted call before))
        (step initial id accepted call before).1)
    (held : holds record before) : holds (sights.foldl note record) last := by
  induction shows generalizing record with
  | nil => exact held
  | cons accepted call rest ih =>
    refine ih (fun accepted call member => step_keeps accepted call ?_) ?_
    · exact List.mem_cons_of_mem _ member
    · exact step_keeps accepted call List.mem_cons_self held

end Alone

namespace Connection

def watch (conn : Connection) (id : StreamId) : List Call → Checked (List Sight)
  | [] => return []
  | call :: rest => do
    let (_, next, events) ← conn.step call
    let later ← next.watch id rest
    let sight :=
      { call
        before := conn.store.lookup id
        after := next.store.lookup id
        events := events.filter (Event.about id) }
    return if call.concerns id then sight :: later else later

variable {conn : Connection} {plain : Plain}

/-- The sights of a stream follow one from the other as the stream does on its own, and there is one
for each call that concerns it. -/
theorem Models.watch_run (models : conn.Models plain) (orderly : plain.Orderly) (calls : List Call)
    (id : StreamId) :
    ∃ sights, conn.watch id calls = .ok sights ∧
      sights.map Sight.call = calls.filter (Call.concerns id) ∧
      Alone.Shows plain.config.initialWindowSize id (plain.streams id)
        (sights.map Sight.unlinked) ((plain.run calls).1.streams id) := by
  induction calls generalizing conn plain with
  | nil => exact ⟨[], rfl, rfl, .nil _⟩
  | cons call rest ih =>
    obtain ⟨answer, next, stepped, models'⟩ := models.step call
    obtain ⟨sights, watched, named, shows⟩ := ih models' (orderly.step models.sound call)
    rw [plain.config_step] at shows
    rw [watch, stepped, Checked.ok_bind]
    dsimp only
    rw [watched, Checked.ok_bind]
    cases concerned : call.concerns id with
    | false =>
      rw [(plain.step_apart concerned).1] at shows
      exact ⟨sights, rfl, by rw [List.filter_cons, concerned, named]; rfl, shows⟩
    | true =>
      have own := orderly.step_eq models.sound concerned
      have after := congrArg Prod.fst own
      have reported := congrArg Prod.snd own
      dsimp only at after reported
      refine ⟨_ :: sights, rfl, by rw [List.filter_cons, concerned, List.map_cons, named]; rfl, ?_⟩
      have seen : Alone.sight plain.config.initialWindowSize id (plain.accept id).1 call
          (plain.streams id) = Sight.unlinked
          { call
            before := conn.store.lookup id
            after := next.store.lookup id
            events := (plain.step call).2.filter (Event.about id) } := by
        rw [Alone.sight, ← after, ← reported, models.streams_eq, models'.streams_eq]
        rfl
      rw [List.map_cons, ← seen]
      rw [after] at shows
      exact .cons _ call shows

/-- What each sight of a stream keeps of a record holds after any calls on a new connection. The
links of the stream are not recorded. -/
theorem Fresh.record_of_run (fresh : conn.Fresh) (calls : List Call) (id : StreamId)
    {Record : Type} {note : Record → Sight → Record} (record : Record)
    (holds : Record → Option Stream → Prop)
    (blind : ∀ record sight, note record sight.unlinked = note record sight)
    (keeps : ∀ {record before} accepted, ∀ call ∈ calls, holds record before →
      holds (note record (Alone.sight conn.config.initialWindowSize id accepted call before))
        (Alone.step conn.config.initialWindowSize id accepted call before).1)
    (held : holds record none) :
    ∃ after events sights, conn.run calls = .ok (after, events) ∧
      conn.watch id calls = .ok sights ∧
      holds (sights.foldl note record) ((after.store.lookup id).map Stream.unlinked) := by
  have models := fresh.models_fresh
  have orderly := Plain.orderly_fresh conn.config
  obtain ⟨after, ran, models'⟩ := models.run calls
  obtain ⟨sights, watched, named, shows⟩ := models.watch_run orderly calls id
  refine ⟨after, _, sights, ran, watched, ?_⟩
  rw [← models'.streams_eq]
  have same : (sights.map Sight.unlinked).foldl note record = sights.foldl note record := by
    rw [List.foldl_map]
    simp only [blind]
  rw [← same]
  refine shows.keeps (fun accepted call member => keeps accepted call ?_) held
  rw [List.map_map] at member
  exact List.mem_of_mem_filter (named ▸ member)

end Connection

end StreamMux
