import StreamMux.Proofs.Connection.Admission

/-!
# What a connection says of all its streams together

The census counts the streams by their states (`Connection.Models.census_eq`), some stream waits to
send exactly when one is flagged for it (`Connection.Models.hasPendingSend_iff`), and the
statistics of the store count the events that open and remove streams
(`Connection.Plain.books_run`).
-/

namespace StreamMux

/-- Each stream of a store is listed once. -/
theorem Store.nodup_toList (store : Store) : (store.toList.map (·.1)).Nodup := by
  have distinct : store.ids.toList.Pairwise fun first second => first.1 ≠ second.1 := by
    have keys : store.ids.keys.Nodup := Std.ExtTreeMap.nodup_keys
    rw [← Std.ExtTreeMap.map_fst_toList_eq_keys] at keys
    exact List.pairwise_map.1 keys
  rw [List.Nodup, List.pairwise_map, toList, List.pairwise_filterMap]
  refine distinct.imp fun {first second} apart left found right found' => ?_
  obtain ⟨stream, -, rfl⟩ := Option.map_eq_some_iff.1 found
  obtain ⟨stream', -, rfl⟩ := Option.map_eq_some_iff.1 found'
  exact apart

/-- What is counted of lists without repetition is a matter of what they list. -/
theorem countP_eq_of_nodup {α : Type} {first second : List α} {p : α → Bool}
    (distinct : first.Nodup) (distinct' : second.Nodup)
    (same : ∀ a, p a = true → (a ∈ first ↔ a ∈ second)) : first.countP p = second.countP p := by
  rw [List.countP_eq_length_filter, List.countP_eq_length_filter]
  apply List.Perm.length_eq
  rw [List.perm_ext_iff_of_nodup (distinct.filter p) (distinct'.filter p)]
  intro a
  rw [List.mem_filter, List.mem_filter]
  exact and_congr_left (same a)

namespace Connection

open Event

variable {conn : Connection} {plain : Plain} {id : StreamId}

/-- The census counts the streams by their states. `known` are ids that all streams are under. -/
theorem Models.census_eq (models : conn.Models plain) {known : List StreamId}
    (distinct : known.Nodup) (all : ∀ id, (plain.streams id).isSome = true → id ∈ known) :
    conn.census = .ok (StreamState.all.map fun state =>
      known.countP fun id => (plain.streams id).any (·.state == state)) := by
  rw [models.census]
  congr 2
  funext state
  let seen (id : StreamId) : Bool := (plain.streams id).any (·.state == state)
  calc (conn.store.toList.map (·.2.2.state)).count state
    _ = conn.store.toList.countP fun entry => seen entry.1 := by
        rw [List.count, List.countP_map]
        refine List.countP_congr fun ⟨id, key, stream⟩ member => ?_
        obtain ⟨bound, present⟩ := Store.mem_toList_iff.1 member
        simp only [seen, models.streams bound present]
        rfl
    _ = (conn.store.toList.map (·.1)).countP seen := by
        rw [List.countP_map]
        rfl
    _ = known.countP seen := by
        apply countP_eq_of_nodup conn.store.nodup_toList distinct
        intro id there
        obtain ⟨stream, found, -⟩ := (Option.any_eq_true ..).1 there
        obtain ⟨key, old, bound, present, -⟩ := models.tracks.exists_get? found
        have listed := List.mem_map_of_mem (f := Prod.fst)
          (Store.mem_toList_iff.2 ⟨bound, present⟩)
        exact iff_of_true listed (all id (by rw [found, Option.isSome_some]))

/-- A stream waits to send when it is flagged for it. -/
theorem Models.hasPendingSend_iff (models : conn.Models plain) : conn.hasPendingSend = true ↔
    ∃ id, (plain.streams id).any (·.queued.send) = true := by
  obtain ⟨keys, names, owns⟩ := models.tracks.owns .send
  have listed (id : StreamId) : id ∈ plain.lines.get .send ↔
      (plain.streams id).any (·.queued.send) = true := models.sound.mem_line .send
  have head : conn.queues.send.head? = keys.head? := owns.head
  have waits : conn.hasPendingSend = conn.queues.send.head?.isSome := by
    rw [hasPendingSend, Queue.isEmpty, Queue.head?, Option.isSome_map, Option.not_isNone]
  rw [waits, head]
  simp only [← listed]
  generalize plain.lines.get .send = line at names
  cases names with
  | nil => simp
  | cons bound names => simp

namespace Plain

/-- The statistics of the store count what the events open and remove. -/
structure Books (before : Plain) (done : Plain × List Event) : Prop where
  inserts : done.1.stats.inserts = before.stats.inserts + done.2.countP (·.kind == .opened)
  removes : done.1.stats.removes = before.stats.removes + done.2.countP (·.kind == .closed)

theorem Books.trans {before middle after : Plain} {events more : List Event}
    (first : Books before (middle, events)) (second : Books middle (after, more)) :
    Books before (after, events ++ more) := by
  constructor
  · rw [second.inserts, first.inserts, List.countP_append, Nat.add_assoc]
  · rw [second.removes, first.removes, List.countP_append, Nat.add_assoc]

def turnover (plain : Plain) : Nat × Nat := (plain.stats.inserts, plain.stats.removes)

theorem turnover_look (plain : Plain) (id : StreamId) :
    (plain.look id).turnover = plain.turnover := by
  simp only [turnover, look]
  split <;> rfl

/-- No stream comes or goes. -/
theorem books_of_calm {before : Plain} {done : Plain × List Event}
    (same : done.1.turnover = before.turnover) (calm : ∀ event ∈ done.2, event.Calm) :
    Books before done := by
  obtain ⟨inserts, removes⟩ := Prod.mk.inj same
  constructor
  · rw [inserts, List.countP_eq_zero.2 fun event member => by simpa using (calm event member).1]
    rfl
  · rw [removes, List.countP_eq_zero.2 fun event member => by simpa using (calm event member).2]
    rfl

theorem books_accept (plain : Plain) (id : StreamId) : Books plain (plain.accept id).2 := by
  unfold accept
  split
  · exact books_of_calm rfl (List.forall_mem_nil _)
  · split
    · exact books_of_calm (plain.turnover_look id) (List.forall_mem_nil _)
    · obtain ⟨inserts, removes⟩ := Prod.mk.inj (plain.turnover_look id)
      constructor
      · exact congrArg (· + 1) inserts
      · exact removes

theorem books_reclaimOne (plain : Plain) (id : StreamId) : Books plain (plain.reclaimOne id) := by
  have looked := plain.turnover_look id
  refine serve_holds (Books plain) (books_of_calm looked (List.forall_mem_nil _)) fun stream => ?_
  split
  · exact books_of_calm looked (List.forall_mem_nil _)
  · obtain ⟨inserts, removes⟩ := Prod.mk.inj looked
    constructor
    · exact inserts
    · exact congrArg (· + 1) removes

theorem books_reclaim (plain : Plain) : Books plain plain.reclaim := by
  have whole (ids : List StreamId) (start : Plain) (events : List Event)
      (books : Books plain (start, events)) :
      Books plain (ids.foldl reclaimNext (start, events)) := by
    induction ids generalizing start events with
    | nil => exact books
    | cons id rest ih => exact ih _ _ (books.trans (start.books_reclaimOne id))
  obtain ⟨inserts, removes⟩ :=
    whole plain.closing plain [] (books_of_calm rfl (List.forall_mem_nil _))
  exact ⟨inserts, removes⟩

theorem books_flush (plain : Plain) : Books plain plain.flush := by
  have turnover : plain.written.turnover = plain.turnover :=
    plain.written_keeps turnover fun _ _ _ => rfl
  have wrote : Books plain (plain.written, plain.writes) :=
    books_of_calm turnover plain.calm_writes
  exact wrote.trans plain.written.books_reclaim

theorem books_step (plain : Plain) (call : Call) : Books plain (plain.step call) := by
  -- A call on one stream neither opens nor removes it.
  have named {id : StreamId} (target : call.target? = some id) (asked : Alone.asks call = false) :
      Books plain (plain.step call) := by
    have unflushed : call ≠ .flush := by
      rintro rfl
      cases target
    refine books_of_calm ?_ (plain.calm_named target asked)
    exact step_keeps turnover turnover_look (fun _ _ _ => rfl) (fun _ _ _ => rfl)
      (fun _ _ _ => rfl) plain (fun _ opens => by cases opens; cases asked) unflushed
  cases call with
  | accept id => exact plain.books_accept id
  | send id _ | reset id _ | consume id _ | grant id _ => exact named rfl rfl
  | flush => exact plain.books_flush
  | census => exact books_of_calm rfl (List.forall_mem_nil _)

theorem books_run (plain : Plain) (calls : List Call) : Books plain (plain.run calls) := by
  induction calls generalizing plain with
  | nil => exact books_of_calm rfl (List.forall_mem_nil _)
  | cons call rest ih => exact (plain.books_step call).trans (ih _)

end Plain

end Connection

end StreamMux
