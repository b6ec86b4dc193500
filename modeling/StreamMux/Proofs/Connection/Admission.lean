import StreamMux.Proofs.Connection.Tally

/-!
# Who is admitted

A connection counts its streams apart from the store, and keeps the id of each slot apart from
both. Every call moves the count by the streams that it opens and removes, and by nothing else
(`Connection.Plain.counts_step`), so in every state that calls can reach the three agree
(`Connection.Counted`), and a stream is accepted when the store has room for it and does not know
its id yet (`Connection.Fresh.admission_of_run`).
-/

namespace StreamMux

namespace Event

variable {events more : List Event} {before middle after : Nat}

/-- The events take a number of streams from `before` to `after`. As no stream is removed that is
not there, a counter that follows them never goes below zero. -/
def Takes (events : List Event) (before after : Nat) : Prop :=
  after + events.countP (·.kind == .closed) = before + events.countP (·.kind == .opened)

theorem Takes.append (first : Takes events before middle) (second : Takes more middle after) :
    Takes (events ++ more) before after := by
  unfold Takes at *
  rw [List.countP_append, List.countP_append]
  omega

def Calm (event : Event) : Prop :=
  event.kind ≠ .opened ∧ event.kind ≠ .closed

theorem calm_map {report : StreamId → Event} (calm : ∀ id, (report id).Calm)
    (ids : List StreamId) : ∀ event ∈ ids.map report, event.Calm := by
  intro event reported
  obtain ⟨id, -, rfl⟩ := List.mem_map.1 reported
  exact calm id

/-- Such events leave the number of streams alone. -/
theorem takes_of_calm (calm : ∀ event ∈ events, event.Calm) (number : Nat) :
    Takes events number number := by
  have opened : events.countP (·.kind == .opened) = 0 := List.countP_eq_zero.2 fun event member =>
    by simpa using (calm event member).1
  have closed : events.countP (·.kind == .closed) = 0 := List.countP_eq_zero.2 fun event member =>
    by simpa using (calm event member).2
  rw [Takes, opened, closed]

/-- What a call on a stream reports. -/
theorem calm_events {call : Call} (unflushed : call ≠ .flush) (initial : Int32) (id : StreamId)
    (stream : Stream) : ∀ event ∈ stream.events initial id call, event.Calm := by
  intro event reported
  cases call with
  | send named chunk | reset named code | consume named count =>
    dsimp only [Stream.events] at reported
    split at reported
    · cases reported
    · rw [List.mem_singleton.1 reported]
      exact ⟨nofun, nofun⟩
  | flush => exact absurd rfl unflushed
  | accept named | grant named increment | census => cases reported

end Event

namespace Connection

open Event

namespace Plain

variable {plain : Plain} {id : StreamId} {live : Finset StreamId}

/-- The ids that have a stream are `live`, and they are counted and within the limit. -/
structure Live (plain : Plain) (live : Finset StreamId) : Prop where
  mem : ∀ id, id ∈ live ↔ (plain.streams id).isSome = true
  card : plain.openStreams.toNat = live.card
  limit : live.card ≤ plain.config.maxConcurrentStreams.toNat

/-- What is done to a connection keeps its streams counted, and the events tell how their number
changed. -/
def Counts (before : Plain) (done : Plain × List Event) : Prop :=
  ∀ live, before.Live live → ∃ left, done.1.Live left ∧ Takes done.2 live.card left.card

theorem live_fresh (config : Config) : Live { config } ∅ :=
  ⟨by simp, rfl, Nat.zero_le _⟩

theorem Counts.trans {before middle after : Plain} {events more : List Event}
    (first : Counts before (middle, events)) (second : Counts middle (after, more)) :
    Counts before (after, events ++ more) := by
  intro live counted
  obtain ⟨left, counted, took⟩ := first live counted
  obtain ⟨left', counted, took'⟩ := second left counted
  exact ⟨left', counted, took.append took'⟩

/-- No stream comes or goes. -/
theorem counts_of_same {before : Plain} {done : Plain × List Event}
    (present : ∀ id, (done.1.streams id).isSome = (before.streams id).isSome)
    (counter : done.1.openStreams = before.openStreams) (config : done.1.config = before.config)
    (calm : ∀ event ∈ done.2, event.Calm) : Counts before done := by
  intro live counted
  refine ⟨live, ⟨fun id => ?_, ?_, ?_⟩, takes_of_calm calm _⟩
  · rw [counted.mem, present]
  · rw [counter, counted.card]
  · rw [config]
    exact counted.limit

/-- Nothing is reported, and the streams stay as they are. -/
theorem counts_of_quiet {before after : Plain} (streams : after.streams = before.streams)
    (counter : after.openStreams = before.openStreams) (config : after.config = before.config) :
    Counts before (after, []) :=
  counts_of_same (fun id => congrArg Option.isSome (congrFun streams id)) counter config
    (List.forall_mem_nil _)

/-- Below the limit there is room to count one more. -/
theorem counts_accept (plain : Plain) (id : StreamId) : Counts plain (plain.accept id).2 := by
  unfold accept
  split
  · exact counts_of_quiet rfl rfl rfl
  · rename_i room
    rw [UInt32.not_le, UInt32.lt_iff_toNat_lt] at room
    split
    · exact counts_of_quiet rfl rfl rfl
    · rename_i absent
      intro live counted
      have new : id ∉ live := fun member => absent ((counted.mem id).1 member)
      have grown := Finset.card_insert_of_notMem new
      have bound := plain.config.maxConcurrentStreams.toNat_lt
      refine ⟨insert id live, ⟨fun k => ?_, ?_, ?_⟩, ?_⟩
      · rw [Finset.mem_insert, counted.mem]
        dsimp only
        rw [streams_set]
        by_cases same : k = id <;> simp [same]
      · show (plain.openStreams + 1).toNat = _
        rw [grown, ← counted.card, UInt32.toNat_add, UInt32.toNat_one, Nat.mod_eq_of_lt (by omega)]
      · rw [grown, ← counted.card]
        exact room
      · show _ + 0 = _ + 1
        rw [grown]

/-- A stream that is removed was counted. -/
theorem counts_reclaimOne (plain : Plain) (id : StreamId) : Counts plain (plain.reclaimOne id) := by
  unfold reclaimOne serve
  split
  · exact counts_of_quiet rfl rfl rfl
  · rename_i stream found
    dsimp only
    split
    · exact counts_of_quiet rfl rfl rfl
    · intro live counted
      have member : id ∈ live := (counted.mem id).2 (by rw [found, Option.isSome_some])
      have shrunk := Finset.card_erase_add_one member
      have counter := counted.card
      refine ⟨live.erase id, ⟨fun k => ?_, ?_, ?_⟩, ?_⟩
      · rw [Finset.mem_erase, counted.mem]
        dsimp only
        rw [streams_erase]
        by_cases same : k = id <;> simp [same]
      · have one : 1 ≤ plain.openStreams := by
          rw [UInt32.le_iff_toNat_le, UInt32.toNat_one]
          omega
        show (plain.openStreams - 1).toNat = _
        rw [UInt32.toNat_sub_of_le _ _ one, UInt32.toNat_one]
        omega
      · exact Nat.le_trans (by omega) counted.limit
      · exact shrunk

theorem counts_reclaim (plain : Plain) : Counts plain plain.reclaim := by
  have whole (ids : List StreamId) (start : Plain) (events : List Event)
      (counts : Counts plain (start, events)) :
      Counts plain (ids.foldl reclaimNext (start, events)) := by
    induction ids generalizing start events with
    | nil => exact counts
    | cons id rest ih => exact ih _ _ (counts.trans (start.counts_reclaimOne id))
  intro live counted
  obtain ⟨left, ⟨mem, card, limit⟩, took⟩ :=
    whole plain.closing plain [] (counts_of_quiet rfl rfl rfl) live counted
  exact ⟨left, ⟨mem, card, limit⟩, took⟩

/-- What a flush reports before it removes streams. -/
def writes (plain : Plain) : List Event :=
  plain.filterSends.2 ++ plain.filterSends.1.filterWindowUpdates.writeResets.2 ++
    plain.filterSends.1.filterWindowUpdates.writeResets.1.writeWindowUpdates.2 ++
    plain.prepared.writeSends.2

/-- No stream comes or goes while a flush writes. -/
theorem calm_writes (plain : Plain) : ∀ event ∈ plain.writes, event.Calm := by
  simp only [writes, List.forall_mem_append]
  refine ⟨⟨⟨?_, ?_⟩, ?_⟩, List.forall_mem_append.2 ⟨?_, ?_⟩⟩
  all_goals
    refine calm_map (fun id => ?_) _
    exact ⟨nofun, nofun⟩

/-- What a flush writes concerns live streams, and it removes none of them before it is done. -/
theorem Sound.counts_flush (sound : plain.Sound) : Counts plain plain.flush := by
  have wrote : Counts plain (plain.written, plain.writes) :=
    counts_of_same (fun id => by rw [sound.streams_written, Option.isSome_map])
      plain.openStreams_written plain.config_written plain.calm_writes
  exact wrote.trans plain.written.counts_reclaim

/-- A call on one stream reports neither its opening nor its removal. -/
theorem calm_named {call : Call} (plain : Plain) (target : call.target? = some id)
    (asked : Alone.asks call = false) : ∀ event ∈ (plain.step call).2, event.Calm := by
  obtain ⟨-, events⟩ := plain.step_named target asked
  have unflushed : call ≠ .flush := by
    rintro rfl
    cases target
  rw [events]
  cases plain.streams id with
  | none => exact List.forall_mem_nil _
  | some stream => exact calm_events unflushed _ id stream

/-- A call on one stream neither opens nor removes it. -/
theorem counts_named {call : Call} (target : call.target? = some id)
    (asked : Alone.asks call = false) : Counts plain (plain.step call) := by
  obtain ⟨streams, -⟩ := plain.step_named target asked
  have unflushed : call ≠ .flush := by
    rintro rfl
    cases target
  have stays (stream : Stream) :
      (stream.after? plain.config.initialWindowSize call).isSome = true := by
    cases call with
    | flush => exact absurd rfl unflushed
    | _ => rfl
  refine counts_of_same (fun k => ?_) ?_ (plain.config_step call) (plain.calm_named target asked)
  · rw [streams]
    split
    · cases plain.streams k with
      | none => rfl
      | some stream => exact stays stream
    · rfl
  · exact step_keeps Plain.openStreams (fun _ _ => rfl) (fun _ _ _ => rfl) (fun _ _ _ => rfl)
      (fun _ _ _ => rfl) plain (fun _ opens => by cases opens; cases asked) unflushed

/-- Every call keeps the streams counted. -/
theorem Sound.counts_step (sound : plain.Sound) (call : Call) : Counts plain (plain.step call) := by
  cases call with
  | accept id => exact plain.counts_accept id
  | send id _ | reset id _ | consume id _ | grant id _ => exact counts_named rfl rfl
  | flush => exact sound.counts_flush
  | census => exact counts_of_quiet rfl rfl rfl

end Plain

/-- The counter, the store and the table of slots agree, and no more streams are open than are
allowed. -/
structure Counted (conn : Connection) : Prop where
  size : conn.openStreams.toNat = conn.store.size
  limit : conn.store.size ≤ conn.config.maxConcurrentStreams.toNat
  named : ∀ id key, conn.store.key? id = some key → conn.idOf key = .ok id

/-- A stream that was just opened: its windows are full, and it has nothing to send and is in no
queue. -/
def justOpened (window : Int32) : Stream where
  state := .opened
  sendWindow := window
  recvWindow := window
  pendingData := []
  resetCode := none
  queued := .replicate false
  links := .replicate none

/-- The stream of `id` was opened in a slot that was vacant. Nothing else changed but the counts
and the table of slots. -/
structure Opened (before : Connection) (id : StreamId) (after : Connection) : Prop where
  slot : ∃ key, before.store.get? key = none ∧ after.idOf key = .ok id ∧
    (∀ k, after.store.key? k = if k = id then some key else before.store.key? k) ∧
    ∀ k, after.store.get? k =
      if k = key then some (justOpened before.config.initialWindowSize) else before.store.get? k
  rest : after = { before with
    store := after.store
    slotIds := after.slotIds
    openStreams := before.openStreams + 1 }
  size : after.store.size = before.store.size + 1
  stats : after.store.stats = { before.store.stats with
    inserts := before.store.stats.inserts + 1
    lookupMisses := before.store.stats.lookupMisses + 1 }

/-- A connection after it refused an id: below the limit a lookup that found the id was counted. -/
def refused (conn : Connection) : Connection :=
  if conn.store.size < conn.config.maxConcurrentStreams.toNat then
    { conn with store := conn.store.countLookup true }
  else conn

/-- What a connection answers to an id, and what becomes of it. -/
structure Admits (before : Connection) (id : StreamId) (yes : Bool) (after : Connection)
    (events : List Event) : Prop where
  decided : yes = true ↔ before.store.size < before.config.maxConcurrentStreams.toNat ∧
    before.store.contains id = false
  opened : yes = true → before.Opened id after ∧ events = [.opened id]
  refused : yes = false → after = before.refused ∧ events = []

variable {conn : Connection} {plain : Plain}

/-- The store has as many streams as there are ids with a stream. -/
theorem Models.size_eq (models : conn.Models plain) {live : Finset StreamId}
    (counted : plain.Live live) : conn.store.size = live.card := by
  have same : live = conn.store.ids.keys.toFinset := by
    ext id
    rw [counted.mem, ← models.contains_eq, List.mem_toFinset, Std.ExtTreeMap.mem_keys]
    exact Std.ExtTreeMap.contains_iff_mem
  rw [same, List.toFinset_card_of_nodup Std.ExtTreeMap.nodup_keys, Std.ExtTreeMap.length_keys]
  rfl

theorem Models.counted (models : conn.Models plain) {live : Finset StreamId}
    (counted : plain.Live live) : conn.Counted where
  size := by rw [models.openStreams, counted.card, models.size_eq counted]
  limit := by
    rw [models.size_eq counted, models.config]
    exact counted.limit
  named _ _ bound := idOf_eq_ok_iff.2 (models.named bound)

/-- Calls one after the other keep the streams counted. -/
theorem Models.counts_run (models : conn.Models plain) (calls : List Call) :
    plain.Counts (plain.run calls) := by
  induction calls generalizing conn plain with
  | nil => exact Plain.counts_of_quiet rfl rfl rfl
  | cons call rest ih =>
    obtain ⟨answer, middle, -, models'⟩ := models.step call
    exact (models.sound.counts_step call).trans (ih models')

theorem admits_of_refused {id : StreamId}
    (no : ¬(conn.store.size < conn.config.maxConcurrentStreams.toNat ∧
      conn.store.contains id = false)) : conn.Admits id false conn.refused [] where
  decided := iff_of_false Bool.false_ne_true no
  opened yes := absurd yes Bool.false_ne_true
  refused _ := ⟨rfl, rfl⟩

/-- Whether an id is accepted is a matter of the store, and so is what becomes of it. -/
theorem Models.admits (models : conn.Models plain) (counted : conn.Counted) (id : StreamId) :
    ∃ yes after events, conn.accept id = .ok (yes, after, events) ∧
      conn.Admits id yes after events := by
  have limit : conn.config.maxConcurrentStreams ≤ conn.openStreams ↔
      ¬conn.store.size < conn.config.maxConcurrentStreams.toNat := by
    rw [UInt32.le_iff_toNat_le, counted.size, Nat.not_lt]
  by_cases full : conn.config.maxConcurrentStreams ≤ conn.openStreams
  · have no := limit.1 full
    refine ⟨false, conn.refused, [], ?_, admits_of_refused fun both => no both.1⟩
    rw [accept_of_full full, Connection.refused, if_neg no]
  have room := Decidable.not_not.1 (mt limit.2 full)
  have known := Store.contains_eq_isSome_key? conn.store id
  cases bound : conn.store.key? id with
  | some key =>
    rw [bound, Option.isSome_some] at known
    refine ⟨false, conn.refused, [], ?_, admits_of_refused fun both => ?_⟩
    · rw [Connection.accept, if_neg full, Store.entry_of_bound bound, Connection.refused,
        if_pos room]
      rfl
    · exact Bool.false_ne_true (both.2.symm.trans known)
  | none =>
    rw [bound, Option.isSome_none] at known
    obtain ⟨key, store, filled, inserted, stats⟩ :=
      models.tracks.settled.fill bound conn.openedStream
    let opened : Connection :=
      { conn with
        store
        slotIds := recordSlot conn.slotIds key id
        openStreams := conn.openStreams + 1 }
    have named : opened.idOf key = .ok id := by
      rw [idOf_eq_ok_iff, getElem?_recordSlot (.inl rfl), if_pos rfl]
    refine ⟨true, opened, [.opened id], ?_, iff_of_true rfl ⟨room, known⟩,
      fun _ => ⟨⟨⟨key, inserted.vacant, named, inserted.key?, inserted.get?⟩, rfl, inserted.size,
        stats⟩, rfl⟩, fun no => absurd no.symm Bool.false_ne_true⟩
    rw [Connection.accept, if_neg full, Store.entry_of_unbound bound]
    simp [filled, opened]

/-- In every state that calls can reach the streams are counted and the table of slots names each;
every call moves the counter by the streams that it opens and removes; and an id is accepted when
the store has room and does not know it. -/
theorem Fresh.admission_of_run (fresh : conn.Fresh) (calls : List Call) :
    ∃ after events, conn.run calls = .ok (after, events) ∧ after.Counted ∧
      (∀ call, ∃ answer next more, after.step call = .ok (answer, next, more) ∧ next.Counted ∧
        Takes more after.openStreams.toNat next.openStreams.toNat) ∧
      ∀ id, ∃ yes next more, after.accept id = .ok (yes, next, more) ∧
        after.Admits id yes next more := by
  have models := fresh.models_fresh
  obtain ⟨after, ran, models'⟩ := models.run calls
  obtain ⟨live, counted, -⟩ := models.counts_run calls ∅ (Plain.live_fresh conn.config)
  refine ⟨after, _, ran, models'.counted counted, fun call => ?_,
    models'.admits (models'.counted counted)⟩
  obtain ⟨answer, next, stepped, models''⟩ := models'.step call
  obtain ⟨left, counted', took⟩ := models'.sound.counts_step call live counted
  refine ⟨answer, next, _, stepped, models''.counted counted', ?_⟩
  rw [models'.openStreams, models''.openStreams, counted.card, counted'.card]
  exact took

/-- The slots of ids 3 and 1, which were removed in this order, are taken by ids 5 and 7 the other
way round, and the limit of three is reached. -/
def slotsTraded : List Call :=
  [.accept (.ofRaw 1), .accept (.ofRaw 3), .reset (.ofRaw 3) 8, .reset (.ofRaw 1) 8, .flush,
    .accept (.ofRaw 5), .accept (.ofRaw 7), .accept (.ofRaw 5), .accept (.ofRaw 9),
    .accept (.ofRaw 11)]

theorem admission_of_run_slotsTraded :
    Fresh { config := { maxConcurrentStreams := 3 } } ∧
      ∃ after events,
        run { config := { maxConcurrentStreams := 3 } } slotsTraded = .ok (after, events) ∧
        after.Counted ∧
        (∀ call, ∃ answer next more, after.step call = .ok (answer, next, more) ∧ next.Counted ∧
          Takes more after.openStreams.toNat next.openStreams.toNat) ∧
        ∀ id, ∃ yes next more, after.accept id = .ok (yes, next, more) ∧
          after.Admits id yes next more :=
  ⟨.mk _ .empty, Fresh.admission_of_run (.mk _ .empty) slotsTraded⟩

end Connection

end StreamMux
