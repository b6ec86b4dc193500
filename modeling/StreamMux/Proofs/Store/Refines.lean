import StreamMux.Proofs.Store.Table

/-!
# A store is a plain map with stable keys

Whatever a program does with a store, it sees the answers of a plain map, in which each new
row has some key that no other row has (`Store.Fresh.run_refines`). A store shows a map when the
ids are bound to the keys of the rows and each slot holds the stream of its row
(`Store.Shows`).
-/

namespace StreamMux.Store

/-- The ids of the store are bound to the keys of the rows, where the streams of the rows are. -/
structure Shows (store : Store) (table : Table) : Prop where
  settled : store.Settled
  keys : ∀ id, store.key? id = table.key? id
  streams : ∀ {id : StreamId} {row : Row},
    table[id]? = some row → store.get? row.key = some row.stream

variable {σ : Type} {store after : Store} {table : Table} {id : StreamId} {ids : List StreamId}
  {key : Nat} {keys : List Nat} {row : Row} {stream : Stream}

namespace Shows

/-- The bindings are those of the rows, in the same order. -/
theorem ids_eq (shows : store.Shows table) :
    store.ids = table.map fun _ row => .slot row.key := by
  apply Std.ExtTreeMap.ext_getElem?
  intro k
  have key := shows.keys k
  rw [Std.ExtTreeMap.getElem?_map]
  cases found : table[k]? with
  | none =>
    rw [Table.key?, found] at key
    rw [key?_eq_none_iff.1 key]
    rfl
  | some row =>
    rw [Table.key?, found] at key
    rw [shows.settled.key?_eq_some_iff.1 key]
    rfl

/-- A bound id has a row. -/
theorem exists_row (shows : store.Shows table) (bound : store.key? id = some key) :
    ∃ stream, table[id]? = some ⟨key, stream⟩ ∧ store.get? key = some stream := by
  rw [shows.keys, Table.key?] at bound
  obtain ⟨row, found, rfl⟩ := Option.map_eq_some_iff.1 bound
  exact ⟨row.stream, found, shows.streams found⟩

/-- An unbound id has no row. -/
theorem getElem?_eq_none (shows : store.Shows table) (unbound : store.key? id = none) :
    table[id]? = none := by
  rw [shows.keys, Table.key?] at unbound
  exact Option.map_eq_none_iff.1 unbound

theorem lookup_eq (shows : store.Shows table) (id : StreamId) :
    store.lookup id = table.stream? id := by
  rw [lookup]
  cases bound : store.key? id with
  | none => rw [Table.stream?, shows.getElem?_eq_none bound]; rfl
  | some key =>
    obtain ⟨stream, found, present⟩ := shows.exists_row bound
    rw [Table.stream?, found, Option.bind_some, present]
    rfl

theorem contains_eq (shows : store.Shows table) (id : StreamId) :
    store.contains id = table.contains id := by
  rw [contains_eq_isSome_key?, shows.keys, Table.key?, Option.isSome_map,
    Std.ExtTreeMap.contains_eq_isSome_getElem?]

theorem size_eq (shows : store.Shows table) : store.size = table.size := by
  rw [size, shows.ids_eq, Std.ExtTreeMap.size_map]

/-- An occupied slot is the slot of one row. -/
theorem holder?_eq_some (shows : store.Shows table) (present : store.get? key = some stream) :
    ∃ id, table.holder? key = some id ∧ table[id]? = some ⟨key, stream⟩ := by
  obtain ⟨id, bound⟩ := shows.settled.exists_key? present
  obtain ⟨old, found, there⟩ := shows.exists_row bound
  rw [present] at there
  cases there
  cases held : table.holder? key with
  | none =>
    have missing := List.find?_eq_none.1 (Option.map_eq_none_iff.1 held) (id, ⟨key, stream⟩)
      (Std.ExtTreeMap.mem_toList_iff_getElem?_eq_some.2 found)
    simp at missing
  | some other =>
    have same := shows.settled.key?_injective bound
      ((shows.keys other).trans (Table.key?_of_holder? held))
    exact ⟨other, rfl, same ▸ found⟩

/-- A vacant slot is the slot of no row. -/
theorem holder?_eq_none (shows : store.Shows table) (vacant : store.get? key = none) :
    table.holder? key = none := by
  rw [Table.holder?, Option.map_eq_none_iff, List.find?_eq_none]
  rintro ⟨id, row⟩ listed
  have there := shows.streams (Std.ExtTreeMap.mem_toList_iff_getElem?_eq_some.1 listed)
  rw [beq_iff_eq]
  rintro rfl
  rw [vacant] at there
  cases there

theorem countLookup (shows : store.Shows table) (found : Bool) :
    (store.countLookup found).Shows table :=
  ⟨shows.settled.countLookup found, shows.keys, shows.streams⟩

/-- Replacing a stream in its slot is a write to its row. -/
theorem put (shows : store.Shows table) (found : table[id]? = some row) (stream : Stream) :
    (store.put row.key stream).Shows (table.write id row stream) := by
  have present := shows.streams found
  have bound : store.key? id = some row.key := by
    rw [shows.keys, Table.key?, found, Option.map_some]
  refine ⟨shows.settled.rewritten (rewritten_put present stream), fun k => ?_,
    fun {k other} written => ?_⟩
  · rw [Table.key?_write found, ← shows.keys]
    rfl
  · rw [Table.getElem?_write] at written
    rw [get?_put present]
    split at written
    · cases written
      rw [if_pos rfl]
    · rename_i apart
      have elsewhere : other.key ≠ row.key := by
        intro same
        have bound' : store.key? k = some row.key := by
          rw [shows.keys, Table.key?, written, Option.map_some, same]
        exact apart (shows.settled.key?_injective bound' bound)
      rw [if_neg elsewhere]
      exact shows.streams written

theorem inserted (shows : store.Shows table) (inserted : store.Inserted id stream key after) :
    after.Shows (table.insert id ⟨key, stream⟩) := by
  refine ⟨inserted.settled, fun k => ?_, fun {k other} listed => ?_⟩
  · rw [inserted.key?, Table.key?, getElem?_insert_id]
    split
    · rfl
    · exact shows.keys k
  · rw [getElem?_insert_id] at listed
    rw [inserted.get?]
    split at listed
    · cases listed
      rw [if_pos rfl]
    · have there := shows.streams listed
      have elsewhere : other.key ≠ key := by
        intro same
        rw [same, inserted.vacant] at there
        cases there
      rw [if_neg elsewhere, there]

theorem removed (shows : store.Shows table) (bound : store.key? id = some key)
    (removed : store.Removed id key after) : after.Shows (table.erase id) := by
  refine ⟨removed.settled, fun k => ?_, fun {k other} listed => ?_⟩
  · rw [removed.key?, Table.key?, getElem?_erase_id]
    split
    · rfl
    · exact shows.keys k
  · rw [getElem?_erase_id] at listed
    rw [removed.get?]
    split at listed
    · cases listed
    · rename_i apart
      have elsewhere : other.key ≠ key := by
        intro same
        have bound' : store.key? k = some key := by
          rw [shows.keys, Table.key?, listed, Option.map_some, same]
        exact apart (shows.settled.key?_injective bound' bound)
      rw [if_neg elsewhere]
      exact shows.streams listed

/-- A walk over the slots of some ids is a walk over their rows. -/
theorem visit (shows : store.Shows table) (names : store.Names ids keys)
    (visit : σ → Stream → σ × Stream) (start : σ) :
    ∃ after, Store.visit visit keys start store =
        .ok ((Table.walk visit ids start table).1, after) ∧
      after.Shows (Table.walk visit ids start table).2 ∧ after.stats = store.stats := by
  induction keys generalizing store table start ids with
  | nil =>
    cases names
    exact ⟨store, rfl, shows, rfl⟩
  | cons key keys ih =>
    rcases names with _ | @⟨id, _, ids, _, bound, names⟩
    obtain ⟨stream, found, present⟩ := shows.exists_row bound
    have written := shows.put found (visit start stream).2
    obtain ⟨after, visited, shows', stats⟩ := ih written names (visit start stream).1
    rw [Table.walk, found]
    refine ⟨after, ?_, shows', stats⟩
    simp only [Store.visit, fetch_of_get? present, set_of_get? present, Checked.ok_bind]
    exact visited

theorem forEach (shows : store.Shows table) (visit : σ → Stream → σ × Stream) (start : σ) :
    ∃ after, store.forEach visit start =
        .ok ((Table.walk visit table.keys start table).1, after) ∧
      after.Shows (Table.walk visit table.keys start table).2 ∧ after.stats = store.stats := by
  rw [forEach_eq_visit]
  refine shows.visit ?_ visit start
  have listed : store.ids.toList.map (·.2.key) = table.toList.map (·.2.key) := by
    rw [shows.ids_eq, Std.ExtTreeMap.toList_map, List.map_map]
    rfl
  rw [listed, ← Std.ExtTreeMap.map_fst_toList_eq_keys, Names, List.forall₂_map_left_iff,
    List.forall₂_map_right_iff, List.forall₂_same]
  rintro ⟨k, row⟩ member
  have found := Std.ExtTreeMap.mem_toList_iff_getElem?_eq_some.1 member
  rw [shows.keys, Table.key?, found, Option.map_some]

/-- The map answers an operation as the store does, with some key at hand, and is what the store
shows afterwards. The answer is counted in the statistics. -/
def Carries (store : Store) (table : Table) (op : Op σ) (answer : Reply σ) (after : Store) :
    Prop :=
  ∃ fresh next, table.step fresh op = some (answer, next) ∧ after.Shows next ∧
    after.stats = store.stats.tally [answer]

theorem insert (shows : store.Shows table) {answer : Reply σ}
    (done : store.step (.insert id stream) = .ok (answer, after)) :
    Carries store table (.insert id stream) answer after := by
  cases bound : store.key? id with
  | some key =>
    simp [step, shows.settled.insert_of_bound bound] at done
  | none =>
    obtain ⟨key, later, put, inserted, stats⟩ := shows.settled.insert bound stream
    simp only [step, put, Checked.ok_bind, Checked.pure_eq_ok, Except.ok.injEq,
      Prod.mk.injEq] at done
    obtain ⟨rfl, rfl⟩ := done
    have unused := shows.holder?_eq_none inserted.vacant
    have unknown : table.contains id = false := by
      rw [← shows.contains_eq, contains_eq_isSome_key?, bound]
      rfl
    refine ⟨key, _, ?_, shows.inserted inserted, stats⟩
    simp [Table.step, unknown, unused]

theorem remove (shows : store.Shows table) {answer : Reply σ}
    (done : store.step (.remove id) = .ok (answer, after)) :
    Carries store table (.remove id) answer after := by
  cases bound : store.key? id with
  | none =>
    simp only [step, remove_of_unbound bound, Checked.ok_bind, Checked.pure_eq_ok,
      Except.ok.injEq, Prod.mk.injEq] at done
    obtain ⟨rfl, rfl⟩ := done
    have unlisted := shows.getElem?_eq_none bound
    refine ⟨0, table, ?_, shows, rfl⟩
    simp [Table.step, unlisted, Table.erase_of_unbound unlisted]
  | some key =>
    obtain ⟨stream, found, present⟩ := shows.exists_row bound
    obtain ⟨later, taken, removed, stats⟩ := shows.settled.remove bound present
    simp only [step, taken, Checked.ok_bind, Checked.pure_eq_ok, Except.ok.injEq,
      Prod.mk.injEq] at done
    obtain ⟨rfl, rfl⟩ := done
    refine ⟨0, _, ?_, shows.removed bound removed, stats⟩
    simp [Table.step, found]

/-- Writing through the key of a row, after a lookup or without one. -/
theorem written (shows : store.Shows table) (bound : store.key? id = some key)
    (write : Stream → Stream) :
    ∃ stream, table[id]? = some ⟨key, stream⟩ ∧ store.fetch key = .ok stream ∧
      store.modify key write = .ok (store.put key (write stream)) ∧
      (store.put key (write stream)).Shows (table.write id ⟨key, stream⟩ (write stream)) := by
  obtain ⟨stream, found, present⟩ := shows.exists_row bound
  exact ⟨stream, found, fetch_of_get? present, modify_of_get? present write,
    shows.put found (write stream)⟩

theorem find (shows : store.Shows table) {write : Stream → Stream} {answer : Reply σ}
    (done : store.step (.find id write) = .ok (answer, after)) :
    Carries store table (.find id write) answer after := by
  cases bound : store.key? id with
  | none =>
    simp only [step, Store.find, bound, Checked.pure_eq_ok, Except.ok.injEq,
      Prod.mk.injEq] at done
    obtain ⟨rfl, rfl⟩ := done
    refine ⟨0, table, ?_, shows.countLookup false, rfl⟩
    simp [Table.step, shows.getElem?_eq_none bound]
  | some key =>
    obtain ⟨stream, found, fetched, modified, shows'⟩ :=
      (shows.countLookup true).written bound write
    simp only [step, Store.find, bound, Option.isSome_some, fetched, modified, Checked.ok_bind,
      Checked.pure_eq_ok, Except.ok.injEq, Prod.mk.injEq] at done
    obtain ⟨rfl, rfl⟩ := done
    refine ⟨0, _, ?_, shows', rfl⟩
    simp [Table.step, found]

theorem entry (shows : store.Shows table) {write : Stream → Stream} {filling : Option Stream}
    {answer : Reply σ} (done : store.step (.entry id write filling) = .ok (answer, after)) :
    Carries store table (.entry id write filling) answer after := by
  cases bound : store.key? id with
  | some key =>
    obtain ⟨stream, found, fetched, modified, shows'⟩ :=
      (shows.countLookup true).written bound write
    simp only [step, entry_of_bound bound, fetched, modified, Checked.ok_bind,
      Checked.pure_eq_ok, Except.ok.injEq, Prod.mk.injEq] at done
    obtain ⟨rfl, rfl⟩ := done
    refine ⟨0, _, ?_, shows', rfl⟩
    simp [Table.step, found]
  | none =>
    have unlisted := shows.getElem?_eq_none bound
    cases filling with
    | none =>
      simp only [step, entry_of_unbound bound, release_of_unbound bound, Checked.pure_eq_ok,
        Except.ok.injEq, Prod.mk.injEq] at done
      obtain ⟨rfl, rfl⟩ := done
      refine ⟨0, table, ?_, shows.countLookup false, rfl⟩
      simp [Table.step, unlisted]
    | some stream =>
      obtain ⟨key, later, filled, inserted, stats⟩ := shows.settled.fill bound stream
      simp only [step, entry_of_unbound bound, filled, VacantEntry.release, Checked.ok_bind,
        Checked.pure_eq_ok, Except.ok.injEq, Prod.mk.injEq] at done
      obtain ⟨rfl, rfl⟩ := done
      have unused := shows.holder?_eq_none inserted.vacant
      refine ⟨key, _, ?_, shows.inserted inserted, stats⟩
      simp [Table.step, unlisted, unused]

theorem index (shows : store.Shows table) {write : Stream → Stream} {answer : Reply σ}
    (done : store.step (.index key write) = .ok (answer, after)) :
    Carries store table (.index key write) answer after := by
  cases fetched : store.fetch key with
  | error fault => simp [step, fetched] at done
  | ok stream =>
    have present := fetch_eq_ok_iff.1 fetched
    obtain ⟨id, held, found⟩ := shows.holder?_eq_some present
    have shows' := shows.put found (write stream)
    simp only [step, fetched, modify_of_get? present, Checked.ok_bind, Checked.pure_eq_ok,
      Except.ok.injEq, Prod.mk.injEq] at done
    obtain ⟨rfl, rfl⟩ := done
    refine ⟨0, _, ?_, shows', rfl⟩
    simp [Table.step, held, found]

theorem step (shows : store.Shows table) {op : Op σ} {answer : Reply σ}
    (done : store.step op = .ok (answer, after)) : Carries store table op answer after := by
  cases op with
  | insert id stream => exact shows.insert done
  | remove id => exact shows.remove done
  | find id write => exact shows.find done
  | entry id write filling => exact shows.entry done
  | index key write => exact shows.index done
  | forEach visit start =>
    obtain ⟨later, visited, shows', stats⟩ := shows.forEach visit start
    simp only [Store.step, visited, Checked.ok_bind, Checked.pure_eq_ok, Except.ok.injEq,
      Prod.mk.injEq] at done
    obtain ⟨rfl, rfl⟩ := done
    exact ⟨0, _, rfl, shows', stats⟩
  | contains id =>
    cases done
    refine ⟨0, table, ?_, shows, rfl⟩
    rw [shows.contains_eq]
    rfl
  | size =>
    cases done
    refine ⟨0, table, ?_, shows, rfl⟩
    rw [shows.size_eq]
    rfl

/-- A program sees the answers of the map, and all of them are counted. -/
theorem run (shows : store.Shows table) {ops : List (Op σ)} {answers : List (Reply σ)}
    (ran : store.run ops = .ok (answers, after)) :
    ∃ (fresh : List Nat) (last : Table), fresh.length = ops.length ∧
      table.run (fresh.zip ops) = some (answers, last) ∧ after.Shows last ∧
      after.stats = store.stats.tally answers := by
  induction ops generalizing store table answers with
  | nil =>
    cases ran
    exact ⟨[], table, rfl, rfl, shows, rfl⟩
  | cons op rest ih =>
    obtain ⟨⟨answer, middle⟩, done, ran⟩ := Checked.bind_eq_ok_iff.1 ran
    obtain ⟨⟨more, last⟩, later, ran⟩ := Checked.bind_eq_ok_iff.1 ran
    cases ran
    obtain ⟨key, next, stepped, shows', stats⟩ := shows.step done
    obtain ⟨fresh, last, length, rows, shows'', stats'⟩ := ih shows' later
    refine ⟨key :: fresh, last, by simp [length], ?_, shows'', ?_⟩
    · simp [Table.run, stepped, rows]
    · rw [stats', stats, ← Stats.tally_cons]

end Shows

theorem Fresh.shows (fresh : store.Fresh) : store.Shows ∅ := by
  refine ⟨fresh.settled, fun k => ?_, fun {k row} listed => ?_⟩
  · rw [fresh.key?, Table.key?, Std.ExtTreeMap.getElem?_empty]
    rfl
  · rw [Std.ExtTreeMap.getElem?_empty] at listed
    cases listed

/-- What a program that has come from a store that was just made to `after` has seen and may
rely on. -/
structure Refines (ops : List (Op σ)) (answers : List (Reply σ)) (after : Store) : Prop where
  /-- A plain map gives the same answers, with some unused key for each new row, and has the
  same ids with the same keys and streams. -/
  rows : ∃ (keys : List Nat) (table : Table), keys.length = ops.length ∧
    Table.run ∅ (keys.zip ops) = some (answers, table) ∧
    ∀ id, after.key? id = table.key? id ∧ after.lookup id = table.stream? id
  /-- A write through an id or through its key changes the stream of the id only. -/
  writes : ∀ (op : Op σ) id write answer later, op.Reaches after.key? id write →
    after.step op = .ok (answer, later) → ∀ other,
      later.lookup other = if other = id then (after.lookup id).map write else after.lookup other
  /-- An id keeps its key, whatever else is done, for as long as it is not removed. -/
  keys : ∀ (more : List (Op σ)) answers' later id key, after.run more = .ok (answers', later) →
    after.key? id = some key → (∀ op ∈ more, op ≠ .remove id) → later.key? id = some key
  /-- The statistics count the answers. -/
  stats : after.stats = Stats.tally {} answers
  size : after.stats.removes + after.size = after.stats.inserts

/-- From a store that was just made on, a program sees what it would see of a plain map. -/
theorem Fresh.run_refines (fresh : store.Fresh) {ops : List (Op σ)} {answers : List (Reply σ)}
    (ran : store.run ops = .ok (answers, after)) : Refines ops answers after := by
  obtain ⟨keys, table, length, rows, shows, stats⟩ := fresh.shows.run ran
  have start : store.stats = {} := by
    obtain ⟨capacity, rfl⟩ := fresh.exists_capacity
    rfl
  rw [start] at stats
  refine ⟨⟨keys, table, length, rows, fun id => ⟨shows.keys id, shows.lookup_eq id⟩⟩, ?_, ?_,
    stats, ?_⟩
  · intro op id write answer later reaches done other
    obtain ⟨key, next, stepped, shows', -⟩ := shows.step done
    rw [funext shows.keys] at reaches
    rw [shows'.lookup_eq, shows.lookup_eq, shows.lookup_eq]
    refine Table.stream?_step stepped reaches (fun a b key first second => ?_) other
    rw [← shows.keys] at first second
    exact shows.settled.key?_injective first second
  · intro more answers' later id key ran' bound kept
    obtain ⟨keys', last, -, rows', shows', -⟩ := shows.run ran'
    rw [shows.keys] at bound
    rw [shows'.keys]
    exact Table.key?_run rows' bound fun op member => kept op.2 (List.of_mem_zip member).2
  · have sizes := Table.size_run rows
    rw [Std.ExtTreeMap.size_empty, Nat.zero_add] at sizes
    rw [stats, shows.size_eq]
    simp only [Stats.tally]
    omega

def slotReuse : List (Op Nat) :=
  [.insert (.ofRaw 1) {}, .entry (.ofRaw 3) (·.setQueued .reset true) (some {}),
    .remove (.ofRaw 1), .remove (.ofRaw 1), .insert (.ofRaw 5) {},
    .find (.ofRaw 3) (·.setQueued .send true), .index 1 (·.setQueued .send false),
    .entry (.ofRaw 7) (·.setQueued .reset true) none,
    .forEach (fun count stream => (count + 1, stream)) 0, .size]

/-- The other stream keeps its slot. -/
theorem run_refines_slotReuse :
    Fresh .empty ∧ ∃ answers after, run .empty slotReuse = .ok (answers, after) ∧
      Refines slotReuse answers after ∧ after.key? (.ofRaw 3) = some 1 ∧
      after.key? (.ofRaw 5) = some 0 :=
  ⟨.empty, _, _, rfl, Fresh.run_refines .empty rfl, rfl, rfl⟩

end StreamMux.Store
