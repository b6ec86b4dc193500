import StreamMux.Proofs.Slab.Map
import StreamMux.Proofs.Slab.Program

/-!
# A slab is an arena with a stack of freed keys

Whatever a program does with a slab, it sees the answers of a plain arena
(`Slab.Fresh.answers_eq_arena`), whose stack is the chain of the vacant slots. So in every state
the links of the vacant slots lead through each of them once, and then to the end of the slots
(`Slab.Fresh.linked_of_run`).
-/

universe u

namespace StreamMux.Slab

variable {α β : Type u} {slab after : Slab α} {arena next : Arena α} {key : Nat} {value : α}
  {free : List Nat} {most : Nat}

theorem length_toList (slab : Slab α) : slab.toList.length = slab.slots.size := by
  rw [toList, List.length_map, Array.length_toList]

theorem get?_eq_join_toList (slab : Slab α) (key : Nat) :
    slab.get? key = slab.toList[key]?.join := by
  rw [toList, List.getElem?_map, Array.getElem?_toList, get?]
  cases slab.slots[key]? <;> rfl

theorem toList_put (slab : Slab α) (key : Nat) (value : α) :
    (slab.put key value).toList = slab.toList.set key (some value) := by
  simp [put, toList, List.map_set]

/-- A new value fills the slot of its key, or comes at the end. -/
theorem toList_insert (inserted : slab.insert value = .ok (key, after)) :
    after.toList = if key = slab.slots.size then slab.toList ++ [some value]
      else slab.toList.set key (some value) := by
  unfold insert at inserted
  dsimp only at inserted
  split at inserted
  · rename_i atEnd
    cases inserted
    simp [atEnd, toList]
  · rename_i notEnd
    split at inserted
    · cases inserted
      simp [notEnd, toList, List.map_set]
    · cases inserted

theorem toList_remove? (removed : slab.remove? key = some (value, after)) :
    after.toList = slab.toList.set key none := by
  obtain ⟨found, present, pair⟩ := Option.map_eq_some_iff.1 removed
  cases pair
  simp [toList, List.map_set]

/-- The occupied slots are those that hold a value. -/
theorem length_keys (slab : Slab α) : slab.keys.length = slab.toList.countP Option.isSome := by
  have slots : slab.toList = (List.range slab.slots.size).map slab.get? := by
    apply List.ext_getElem?
    intro key
    rw [List.getElem?_map]
    by_cases inside : key < slab.slots.size
    · rw [List.getElem?_range inside, Option.map_some, get?_eq_join_toList]
      rw [← length_toList] at inside
      rw [List.getElem?_eq_getElem inside]
      rfl
    · rw [List.getElem?_eq_none (by rw [length_toList]; omega),
        List.getElem?_eq_none (by rw [List.length_range]; omega)]
      rfl
  rw [keys, slots, List.countP_map, List.countP_eq_length_filter]
  rfl

/-- The values are in the same places, and the stack is the chain of the vacant slots. -/
structure Shows (slab : Slab α) (arena : Arena α) : Prop where
  free : slab.FreeList arena.freed
  values : slab.toList = arena.values

/-- Two computations have the same answer or the same fault, and leave a slab and an arena that
agree. -/
inductive Agrees : Checked (β × Slab α) → Checked (β × Arena α) → Prop where
  | ok (answer : β) {after : Slab α} {next : Arena α} (shows : after.Shows next) :
    Agrees (.ok (answer, after)) (.ok (answer, next))
  | error (fault : Fault) : Agrees (.error fault) (.error fault)

theorem Agrees.bind {γ : Type u} {first : Checked (β × Slab α)} {plain : Checked (β × Arena α)}
    {rest : β × Slab α → Checked (γ × Slab α)} {rest' : β × Arena α → Checked (γ × Arena α)}
    (agrees : Agrees first plain)
    (later : ∀ answer {after : Slab α} {next : Arena α}, after.Shows next →
      Agrees (rest (answer, after)) (rest' (answer, next))) :
    Agrees (first >>= rest) (plain >>= rest') := by
  cases agrees with
  | ok answer shows => exact later answer shows
  | error fault => exact .error fault

/-- What is answered does not tell the slab from the arena. -/
theorem Agrees.map_fst {first : Checked (β × Slab α)} {plain : Checked (β × Arena α)}
    (agrees : Agrees first plain) : Prod.fst <$> first = Prod.fst <$> plain := by
  cases agrees with
  | ok answer shows => rfl
  | error fault => rfl

theorem Agrees.exists_ok {plain : Checked (β × Arena α)} {answer : β}
    (agrees : Agrees (.ok (answer, after)) plain) :
    ∃ next, plain = .ok (answer, next) ∧ after.Shows next := by
  cases agrees with
  | ok answer shows => exact ⟨_, rfl, shows⟩

namespace Shows

theorem length_eq (shows : slab.Shows arena) : arena.values.length = slab.slots.size := by
  rw [← shows.values, length_toList]

theorem get?_eq (shows : slab.Shows arena) (key : Nat) : slab.get? key = arena.get? key := by
  rw [get?_eq_join_toList, shows.values, Arena.get?]

theorem size_eq (shows : slab.Shows arena) : slab.size = arena.size := by
  rw [shows.free.size_eq, length_keys, shows.values, Arena.size]

/-- The first free slot is on top of the stack. -/
theorem vacantKey_eq (shows : slab.Shows arena) : slab.vacantKey = arena.nextKey := by
  have chain := shows.free.chain
  unfold Arena.nextKey
  cases freed : arena.freed with
  | nil =>
    rw [freed, FreeChain] at chain
    rw [List.headD_nil, shows.length_eq, chain]
  | cons key rest =>
    rw [freed] at chain
    exact chain.1

theorem slotsFor_eq (shows : slab.Shows arena) (additional : UInt64) :
    slab.slotsFor additional = arena.placesFor additional := by
  have vacant : slab.slots.size - slab.size = arena.freed.length := by
    have count := shows.free.count
    omega
  rw [slotsFor, Arena.placesFor, vacant, shows.length_eq]

/-- Insertion cannot fail, and takes its key from the stack. -/
theorem insert (shows : slab.Shows arena) (value : α) :
    ∃ after, slab.insert value = .ok (arena.nextKey, after) ∧ after.Shows (arena.insert value) := by
  obtain ⟨after, inserted, remaining⟩ := shows.free.insert value
  have slots := toList_insert inserted
  rw [shows.vacantKey_eq] at inserted slots
  refine ⟨after, inserted, ?_⟩
  rw [shows.values, ← shows.length_eq] at slots
  unfold Arena.insert
  unfold Arena.nextKey at slots
  cases freed : arena.freed with
  | nil =>
    rw [freed] at remaining slots
    rw [List.headD_nil, if_pos rfl] at slots
    exact ⟨remaining, slots⟩
  | cons key rest =>
    have inside : key ≠ arena.values.length := by
      obtain ⟨next, vacant⟩ := shows.free.chain.vacant_of_mem (freed ▸ List.mem_cons_self)
      have bound := (Array.getElem?_eq_some_iff.1 vacant).1
      rw [shows.length_eq]
      omega
    rw [freed] at remaining slots
    rw [List.headD_cons, if_neg inside] at slots
    exact ⟨remaining, slots⟩

/-- A removed key goes onto the stack. -/
theorem remove? (shows : slab.Shows arena) (present : slab.get? key = some value) :
    ∃ after, slab.remove? key = some (value, after) ∧ after.Shows (arena.free key) := by
  obtain ⟨after, removed, -, remaining⟩ := shows.free.remove? present
  refine ⟨after, removed, remaining, ?_⟩
  rw [toList_remove? removed, shows.values]
  rfl

theorem put (shows : slab.Shows arena) (present : slab.get? key = some value) (new : α) :
    (slab.put key new).Shows (arena.write key (some new)) := by
  have same : (slab.put key new).map (fun _ => ()) = slab.map fun _ => () :=
    map_put_of_eq present rfl
  refine ⟨freeList_map.1 (same ▸ freeList_map.2 shows.free), ?_⟩
  rw [toList_put, shows.values]
  rfl

theorem clear (slab : Slab α) : slab.clear.Shows .empty :=
  ⟨freeList_nil slab.capacity, rfl⟩

/-- An operation has the answer that it has on the arena, or is fatal on both. -/
theorem step (shows : slab.Shows arena) (op : Op α) :
    Agrees (slab.step most op) (arena.step most op) := by
  cases op with
  | insert value =>
    obtain ⟨after, inserted, shows'⟩ := shows.insert value
    simp only [Slab.step, Arena.step, inserted]
    exact .ok _ shows'
  | tryRemove key =>
    simp only [Slab.step, Arena.step, ← shows.get?_eq]
    cases present : slab.get? key with
    | none =>
      rw [remove?_eq_none_iff.2 present]
      exact .ok _ shows
    | some value =>
      obtain ⟨after, removed, shows'⟩ := shows.remove? present
      rw [removed]
      exact .ok _ shows'
  | remove key =>
    simp only [Slab.step, Arena.step, Slab.remove, ← shows.get?_eq]
    cases present : slab.get? key with
    | none =>
      rw [remove?_eq_none_iff.2 present]
      exact .error .invalidKey
    | some value =>
      obtain ⟨after, removed, shows'⟩ := shows.remove? present
      rw [removed]
      exact .ok _ shows'
  | get key write =>
    simp only [Slab.step, Arena.step, ← shows.get?_eq]
    cases present : slab.get? key with
    | none => exact .ok _ shows
    | some value =>
      dsimp only
      rw [modify_of_get? present]
      exact .ok _ (shows.put present (write value))
  | index key write =>
    simp only [Slab.step, Arena.step, ← shows.get?_eq]
    cases present : slab.get? key with
    | none =>
      rw [fetch_eq_error_iff.2 present]
      exact .error .invalidKey
    | some value =>
      rw [fetch_of_get? present, Checked.ok_bind, modify_of_get? present]
      exact .ok _ (shows.put present (write value))
  | contains key =>
    simp only [Slab.step, Arena.step, Slab.contains, shows.get?_eq]
    exact .ok _ shows
  | vacantKey =>
    simp only [Slab.step, Arena.step, shows.vacantKey_eq]
    exact .ok _ shows
  | size =>
    simp only [Slab.step, Arena.step, shows.size_eq]
    exact .ok _ shows
  | isEmpty =>
    simp only [Slab.step, Arena.step, Slab.isEmpty, shows.size_eq]
    exact .ok _ shows
  | reserve additional =>
    simp only [Slab.step, Arena.step, Slab.reserve, Arena.refusal?, shows.slotsFor_eq]
    by_cases fits : arena.placesFor additional ≤ most
    · rw [if_pos fits, if_pos fits]
      exact .ok _ ⟨⟨shows.free.chain, shows.free.nodup, shows.free.covers, shows.free.count⟩,
        shows.values⟩
    · rw [if_neg fits, if_neg fits]
      exact .ok _ shows
  | clear => exact .ok _ (Shows.clear slab)

/-- A program has the answers that it has on the arena. -/
theorem run (shows : slab.Shows arena) (ops : List (Op α)) :
    Agrees (slab.run most ops) (arena.run most ops) := by
  induction ops generalizing slab arena with
  | nil => exact .ok [] shows
  | cons op rest ih =>
    apply (shows.step op).bind
    intro answer after next shows'
    apply (ih shows').bind
    intro answers last lastArena shows''
    exact .ok (answer :: answers) shows''

/-- The places of the arena are the keys handed out since it was last cleared. -/
theorem use_step {op : Op α} {answer : Reply α} {keys : List Nat} (shows : slab.Shows arena)
    (done : arena.step most op = .ok (answer, next))
    (used : ∀ key, key < arena.values.length ↔ key ∈ keys) (key : Nat) :
    key < next.values.length ↔ key ∈ answer.use keys := by
  cases op with
  | insert value =>
    cases done
    rw [Reply.use, List.mem_cons, ← used]
    unfold Arena.insert Arena.nextKey
    cases freed : arena.freed with
    | nil =>
      simp only [List.length_append, List.length_singleton, List.headD_nil]
      omega
    | cons first rest =>
      obtain ⟨link, vacant⟩ := shows.free.chain.vacant_of_mem (freed ▸ List.mem_cons_self)
      have bound := (Array.getElem?_eq_some_iff.1 vacant).1
      rw [← shows.length_eq] at bound
      simp only [Arena.length_write, List.headD_cons]
      omega
  | clear =>
    cases done
    simp [Arena.empty, Reply.use]
  | tryRemove key | remove key | get key write | index key write =>
    unfold Arena.step at done
    dsimp only at done
    split at done <;> cases done <;> simpa [Reply.use] using used _
  | _ =>
    cases done
    exact used key

/-- After a program, the places are the keys handed out since the arena was last cleared. -/
theorem use_run (shows : slab.Shows arena) {keys : List Nat}
    (used : ∀ key, key < arena.values.length ↔ key ∈ keys) {ops : List (Op α)}
    {answers : List (Reply α)} (ran : slab.run most ops = .ok (answers, after)) :
    ∃ next, after.Shows next ∧
      ∀ key, key < next.values.length ↔ key ∈ answers.foldl Reply.use keys := by
  induction ops generalizing slab arena keys answers with
  | nil =>
    cases ran
    exact ⟨arena, shows, used⟩
  | cons op rest ih =>
    obtain ⟨⟨answer, middle⟩, done, ran⟩ := Checked.bind_eq_ok_iff.1 ran
    obtain ⟨⟨more, last⟩, later, ran⟩ := Checked.bind_eq_ok_iff.1 ran
    cases ran
    obtain ⟨next, plainly, shows'⟩ := (done ▸ shows.step op).exists_ok
    exact ih shows' (shows.use_step plainly used) later

end Shows

theorem Fresh.shows (fresh : slab.Fresh) : slab.Shows .empty := by
  obtain ⟨capacity, rfl⟩ := fresh.exists_capacity
  exact ⟨freeList_nil capacity, rfl⟩

/-- A program sees the answers of an arena with a stack, whatever room there was at the start and
however many slots an array can have. Its requests for room change none of the other answers. -/
theorem Fresh.answers_eq_arena (fresh : slab.Fresh) (most : Nat) (ops : List (Op α)) :
    slab.answers most ops = Arena.empty.answers most ops ∧
      slab.answers most (ops.filter (!·.isReserve)) =
        List.filter (!·.isRoom) <$> slab.answers most ops := by
  have same (ops : List (Op α)) : slab.answers most ops = Arena.empty.answers most ops :=
    (fresh.shows.run ops).map_fst
  refine ⟨same ops, ?_⟩
  rw [same, same, Arena.answers, Arena.run_filter_isReserve, Arena.answers]
  cases Arena.empty.run most ops with
  | error fault => rfl
  | ok result => rfl

def lastFreedFirst : List (Op Nat) :=
  [.insert 10, .insert 11, .insert 12, .remove 0, .tryRemove 2, .tryRemove 2, .reserve 6,
    .insert 13, .insert 14, .insert 15, .index 1 (· + 1), .get 1 id, .clear, .insert 16]

theorem answers_eq_arena_lastFreedFirst :
    Fresh ({ capacity := 2 } : Slab Nat) ∧
      ({ capacity := 2 } : Slab Nat).answers 8 lastFreedFirst =
        Arena.empty.answers 8 lastFreedFirst ∧
      ({ capacity := 2 } : Slab Nat).answers 8 (lastFreedFirst.filter (!·.isReserve)) =
        List.filter (!·.isRoom) <$> ({ capacity := 2 } : Slab Nat).answers 8 lastFreedFirst ∧
      Arena.empty.answers 8 lastFreedFirst =
        .ok [.inserted 0, .inserted 1, .inserted 2, .read 10, .found (some 12), .found none,
          .roomy none, .inserted 2, .inserted 0, .inserted 3, .read 11, .found (some 12), .cleared,
          .inserted 0] := by
  have fresh : Fresh ({ capacity := 2 } : Slab Nat) :=
    .withCapacity (rfl : withCapacity 2 = .ok { capacity := 2 })
  obtain ⟨same, roomless⟩ := Fresh.answers_eq_arena fresh 8 lastFreedFirst
  exact ⟨fresh, same, roomless, rfl⟩

/-- The links of the vacant slots lead from the first free slot through each vacant slot once and
then to the end of the slots, which are the ones whose keys are in `used`. -/
structure Linked (slab : Slab α) (used : List Nat) : Prop where
  chain : ∃ free, FreeChain slab.slots slab.vacantKey free ∧ free.Nodup ∧
    ∀ key, key ∈ free ↔ ∃ next, slab.slots[key]? = some (.vacant next)
  slots : ∀ key, key < slab.slots.size ↔ key ∈ used
  size : slab.size = slab.keys.length
  /-- The key that is handed out next holds no value. -/
  vacantKey : slab.contains slab.vacantKey = false
  /-- The link that an insertion reads is in a vacant slot, so that it never fails. -/
  insert : ∀ value, ∃ after, slab.insert value = .ok (slab.vacantKey, after)

theorem FreeList.linked {used : List Nat} (list : slab.FreeList free)
    (slots : ∀ key, key < slab.slots.size ↔ key ∈ used) : slab.Linked used where
  chain := ⟨free, list.chain, list.nodup, fun _ => list.mem_iff⟩
  slots := slots
  size := list.size_eq
  vacantKey := by rw [contains, list.get?_vacantKey, Option.isSome_none]
  insert value := by
    obtain ⟨after, inserted, -⟩ := list.insert value
    exact ⟨after, inserted⟩

/-- After any program, the slots ever used since the last clearing are linked or occupied. -/
theorem Fresh.linked_of_run (fresh : slab.Fresh) {ops : List (Op α)} {answers : List (Reply α)}
    (ran : slab.run most ops = .ok (answers, after)) :
    after.Linked (answers.foldl Reply.use []) := by
  have unused (key : Nat) : key < (Arena.empty : Arena α).values.length ↔ key ∈ [] := by
    simp [Arena.empty]
  obtain ⟨arena, shows, used⟩ := fresh.shows.use_run unused ran
  rw [shows.length_eq] at used
  exact shows.free.linked used

def twoVacant : List (Op Nat) :=
  [.insert 1, .clear, .insert 2, .insert 3, .insert 4, .remove 0, .remove 2]

/-- The slot that was vacated last is handed out next. -/
theorem linked_of_run_twoVacant :
    Fresh (.empty : Slab Nat) ∧ ∃ answers after, Slab.empty.run 8 twoVacant = .ok (answers, after) ∧
      after.Linked (answers.foldl Reply.use []) ∧ after.vacantKey = 2 ∧ after.keys = [1] := by
  have ran : Slab.empty.run 8 twoVacant = .ok _ := rfl
  exact ⟨.empty, _, _, ran, Fresh.linked_of_run .empty ran, rfl, rfl⟩

end StreamMux.Slab
