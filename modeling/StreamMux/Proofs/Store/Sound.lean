import Mathlib.Data.List.Forall2
import StreamMux.Proofs.Slab.Map
import StreamMux.Store.Entry

/-!
# Soundness of a stream store

The id map of a sound store and the occupied slots of its slab are two sides of
one bijection. Any change of the streams in their slots keeps it
(`Store.Rewritten`). While no entry is pending, a sound store is settled and every
bound id has a stream.
-/

namespace StreamMux

/-- The ids of a map after one was bound. -/
theorem getElem?_insert_id (ids : Std.ExtTreeMap StreamId β) (id k : StreamId) (value : β) :
    (ids.insert id value)[k]? = if k = id then some value else ids[k]? := by
  rw [Std.ExtTreeMap.getElem?_insert]
  by_cases same : k = id
  · subst same
    simp
  · have apart : compare id k ≠ .eq := fun eq => same (Std.LawfulEqOrd.eq_of_compare eq).symm
    rw [if_neg apart, if_neg same]

/-- The ids of a map after one was unbound. -/
theorem getElem?_erase_id (ids : Std.ExtTreeMap StreamId β) (id k : StreamId) :
    (ids.erase id)[k]? = if k = id then none else ids[k]? := by
  rw [Std.ExtTreeMap.getElem?_erase]
  by_cases same : k = id
  · subst same
    simp
  · have apart : compare id k ≠ .eq := fun eq => same (Std.LawfulEqOrd.eq_of_compare eq).symm
    rw [if_neg apart, if_neg same]

theorem size_insert_new {id : StreamId} {ids : Std.ExtTreeMap StreamId β}
    (missing : ids[id]? = none) (value : β) : (ids.insert id value).size = ids.size + 1 := by
  rw [Std.ExtTreeMap.size_insert, Std.ExtTreeMap.contains_eq_isSome_getElem?, missing]
  rfl

theorem size_insert_old {id : StreamId} {ids : Std.ExtTreeMap StreamId β} {old : β}
    (known : ids[id]? = some old) (value : β) : (ids.insert id value).size = ids.size := by
  rw [Std.ExtTreeMap.size_insert, Std.ExtTreeMap.contains_eq_isSome_getElem?, known]
  rfl

theorem size_erase_old {id : StreamId} {ids : Std.ExtTreeMap StreamId β} {old : β}
    (known : ids[id]? = some old) : (ids.erase id).size + 1 = ids.size := by
  have found : ids.contains id = true := by
    rw [Std.ExtTreeMap.contains_eq_isSome_getElem?, known, Option.isSome_some]
  have nonempty : ids.size ≠ 0 := by
    intro zero
    rw [Std.ExtTreeMap.eq_empty_iff_size_eq_zero.2 zero, Std.ExtTreeMap.contains_empty] at found
    cases found
  rw [Std.ExtTreeMap.size_erase, if_pos found]
  omega

namespace Store

/-- Each slot that an id is bound to holds a stream, and each stream has one id. -/
structure Sound (store : Store) : Prop where
  slab : store.slab.Sound
  occupied : ∀ {id : StreamId} {key : Nat},
    store.ids[id]? = some (.slot key) → ∃ stream, store.get? key = some stream
  injective : ∀ {a b : StreamId} {key : Nat},
    store.ids[a]? = some (.slot key) → store.ids[b]? = some (.slot key) → a = b
  covered : ∀ {key : Nat} {stream : Stream},
    store.get? key = some stream → ∃ id : StreamId, store.ids[id]? = some (.slot key)

/-- A sound store in which no id is reserved. -/
structure Settled (store : Store) : Prop extends Sound store where
  unreserved : ∀ id : StreamId, store.ids[id]? ≠ some .reserved

def put (store : Store) (key : Nat) (stream : Stream) : Store :=
  { store with slab := store.slab.put key stream }

variable {store after : Store} {id : StreamId} {key : Nat} {stream : Stream} {ids : List StreamId}
  {keys : List Nat}

theorem fetch_of_get? (present : store.get? key = some stream) : store.fetch key = .ok stream :=
  fetch_eq_ok_iff.2 present

theorem modify_of_get? (present : store.get? key = some stream) (f : Stream → Stream) :
    store.modify key f = .ok (store.put key (f stream)) := by
  simp [modify, Slab.modify_of_get? present, put]

theorem set_of_get? (present : store.get? key = some stream) (new : Stream) :
    store.set key new = .ok (store.put key new) :=
  modify_of_get? present _

theorem get?_put (present : store.get? key = some stream) (new : Stream) (k : Nat) :
    (store.put key new).get? k = if k = key then some new else store.get? k :=
  Slab.get?_put present new k

@[simp] theorem get?_countLookup (store : Store) (found : Bool) (key : Nat) :
    (store.countLookup found).get? key = store.get? key := rfl

@[simp] theorem stats_countLookup_true (store : Store) :
    (store.countLookup true).stats =
      { store.stats with lookupHits := store.stats.lookupHits + 1 } := rfl

@[simp] theorem stats_countLookup_false (store : Store) :
    (store.countLookup false).stats =
      { store.stats with lookupMisses := store.stats.lookupMisses + 1 } := rfl

/-- Nothing differs but what the streams are like: the same slots are occupied,
and the same ids are bound to them. -/
structure Rewritten (before after : Store) : Prop where
  ids : after.ids = before.ids
  stats : after.stats = before.stats
  slots : after.slab.map (fun _ => ()) = before.slab.map (fun _ => ())

theorem Rewritten.refl (store : Store) : Rewritten store store := ⟨rfl, rfl, rfl⟩

theorem Rewritten.trans {first second third : Store} (one : Rewritten first second)
    (two : Rewritten second third) : Rewritten first third :=
  ⟨two.ids.trans one.ids, two.stats.trans one.stats, two.slots.trans one.slots⟩

theorem rewritten_put (present : store.get? key = some stream) (new : Stream) :
    Rewritten store (store.put key new) :=
  ⟨rfl, rfl, Slab.map_put_of_eq present rfl⟩

theorem Rewritten.get?_isSome (same : Rewritten store after) (key : Nat) :
    (after.get? key).isSome = (store.get? key).isSome := by
  simpa [get?] using congrArg (fun slab => (slab.get? key).isSome) same.slots

theorem Rewritten.get?_eq_none (same : Rewritten store after) (vacant : store.get? key = none) :
    after.get? key = none := by
  rw [← Option.isNone_iff_eq_none, ← Option.not_isSome, same.get?_isSome, vacant]
  rfl

/-- A slot that is occupied after a change was occupied before it. -/
theorem Rewritten.exists_get? (same : Rewritten store after)
    (present : after.get? key = some stream) : ∃ old, store.get? key = some old := by
  rw [← Option.isSome_iff_exists, ← same.get?_isSome, present]
  rfl

theorem Rewritten.symm (same : Rewritten store after) : Rewritten after store :=
  ⟨same.ids.symm, same.stats.symm, same.slots.symm⟩

theorem Sound.rewritten (sound : store.Sound) (same : Rewritten store after) : after.Sound where
  slab := sound.slab.of_map_eq same.slots
  occupied bound := by
    rw [same.ids] at bound
    obtain ⟨old, present⟩ := sound.occupied bound
    exact same.symm.exists_get? present
  injective left right := by
    rw [same.ids] at left right
    exact sound.injective left right
  covered present := by
    obtain ⟨old, before⟩ := same.exists_get? present
    rw [same.ids]
    exact sound.covered before

theorem Settled.rewritten (settled : store.Settled) (same : Rewritten store after) :
    after.Settled where
  toSound := settled.toSound.rewritten same
  unreserved id := by
    rw [same.ids]
    exact settled.unreserved id

theorem key?_eq_none_iff : store.key? id = none ↔ store.ids[id]? = none :=
  Option.map_eq_none_iff

theorem contains_eq_isSome_key? (store : Store) (id : StreamId) :
    store.contains id = (store.key? id).isSome := by
  rw [contains, Std.ExtTreeMap.contains_eq_isSome_getElem?, key?, Option.isSome_map]

theorem Sound.countLookup (sound : store.Sound) (found : Bool) : (store.countLookup found).Sound :=
  ⟨sound.slab, sound.occupied, sound.injective, sound.covered⟩

theorem Settled.countLookup (settled : store.Settled) (found : Bool) :
    (store.countLookup found).Settled :=
  ⟨settled.toSound.countLookup found, settled.unreserved⟩

theorem Settled.key?_eq_some_iff (settled : store.Settled) :
    store.key? id = some key ↔ store.ids[id]? = some (.slot key) := by
  rw [key?, Option.map_eq_some_iff]
  constructor
  · rintro ⟨binding, bound, rfl⟩
    cases binding with
    | reserved => exact absurd bound (settled.unreserved id)
    | slot key => exact bound
  · intro bound
    exact ⟨.slot key, bound, rfl⟩

/-- A bound id has a stream. -/
theorem Settled.exists_get? (settled : store.Settled) (bound : store.key? id = some key) :
    ∃ stream, store.get? key = some stream :=
  settled.occupied (settled.key?_eq_some_iff.1 bound)

theorem Settled.key?_injective (settled : store.Settled) {other : StreamId}
    (bound : store.key? id = some key) (bound' : store.key? other = some key) : id = other :=
  settled.injective (settled.key?_eq_some_iff.1 bound) (settled.key?_eq_some_iff.1 bound')

/-- A stream is bound to an id. -/
theorem Settled.exists_key? (settled : store.Settled) (present : store.get? key = some stream) :
    ∃ id, store.key? id = some key := by
  obtain ⟨id, bound⟩ := settled.covered present
  exact ⟨id, settled.key?_eq_some_iff.2 bound⟩

/-- The streams of `ids` are at `keys`, in the same order. -/
def Names (store : Store) : List StreamId → List Nat → Prop :=
  List.Forall₂ fun id key => store.key? id = some key

theorem Names.congr (names : store.Names ids keys) (same : ∀ k ∈ ids, after.key? k = store.key? k) :
    after.Names ids keys := by
  induction names with
  | nil => exact .nil
  | cons bound names ih =>
    refine .cons ?_ (ih fun k member => same k (List.mem_cons_of_mem _ member))
    rw [same _ List.mem_cons_self, bound]

/-- Ids are bound to one key each. -/
theorem Names.unique {others : List Nat} (names : store.Names ids keys)
    (names' : store.Names ids others) : keys = others := by
  induction names generalizing others with
  | nil =>
    cases names'
    rfl
  | cons bound names ih =>
    cases names' with
    | cons bound' names' =>
      rw [bound] at bound'
      cases bound'
      rw [ih names']

theorem Names.exists_id (names : store.Names ids keys) (member : key ∈ keys) :
    ∃ id ∈ ids, store.key? id = some key := by
  induction names with
  | nil => cases member
  | cons bound names ih =>
    rcases List.mem_cons.1 member with rfl | later
    · exact ⟨_, List.mem_cons_self, bound⟩
    · obtain ⟨id, found, bound⟩ := ih later
      exact ⟨id, List.mem_cons_of_mem _ found, bound⟩

theorem Names.exists_key (names : store.Names ids keys) (member : id ∈ ids) :
    ∃ key ∈ keys, store.key? id = some key := by
  induction names with
  | nil => cases member
  | cons bound names ih =>
    rcases List.mem_cons.1 member with rfl | later
    · exact ⟨_, List.mem_cons_self, bound⟩
    · obtain ⟨key, found, bound⟩ := ih later
      exact ⟨key, List.mem_cons_of_mem _ found, bound⟩

/-- A stream is in a line of ids exactly when its key is in the line of keys. -/
theorem Settled.mem_iff (settled : store.Settled) (names : store.Names ids keys)
    (bound : store.key? id = some key) : key ∈ keys ↔ id ∈ ids := by
  constructor
  · intro member
    obtain ⟨other, found, bound'⟩ := names.exists_id member
    rw [settled.key?_injective bound bound']
    exact found
  · intro member
    obtain ⟨other, found, bound'⟩ := names.exists_key member
    rw [bound] at bound'
    cases bound'
    exact found

theorem Names.append (names : store.Names ids keys) (bound : store.key? id = some key) :
    store.Names (ids ++ [id]) (keys ++ [key]) :=
  List.rel_append names (.cons bound .nil)

theorem Names.filter (names : store.Names ids keys) (left : StreamId → Bool) (right : Nat → Bool)
    (same : ∀ id key, store.key? id = some key → left id = right key) :
    store.Names (ids.filter left) (keys.filter right) := by
  refine List.rel_filter (fun id key bound => ?_) names
  show left id = true ↔ right key = true
  rw [same id key bound]

/-- The streams of a store are listed under the ids that are bound to them. -/
theorem mem_toList_iff : (id, key, stream) ∈ store.toList ↔
    store.key? id = some key ∧ store.get? key = some stream := by
  simp only [toList, List.mem_filterMap, Option.map_eq_some_iff, Prod.mk.injEq, key?]
  constructor
  · rintro ⟨⟨id, binding⟩, listed, stream, present, rfl, rfl, rfl⟩
    rw [Std.ExtTreeMap.mem_toList_iff_getElem?_eq_some] at listed
    exact ⟨⟨binding, listed, rfl⟩, present⟩
  · rintro ⟨⟨binding, bound, rfl⟩, present⟩
    rw [← Std.ExtTreeMap.mem_toList_iff_getElem?_eq_some] at bound
    exact ⟨(id, binding), bound, stream, present, rfl, rfl, rfl⟩

theorem put_self (present : store.get? key = some stream) :
    store.put key stream = store := by
  rw [put, Slab.put_self present]

/-- A walk that leaves the streams as they are. -/
theorem visit_read (read : σ → Stream → σ) (start : σ)
    (present : ∀ k ∈ keys, ∃ stream, store.get? k = some stream) :
    visit (fun result stream => (read result stream, stream)) keys start store =
      .ok ((keys.filterMap store.get?).foldl read start, store) := by
  induction keys generalizing start with
  | nil => rfl
  | cons key keys ih =>
    obtain ⟨stream, found⟩ := present key List.mem_cons_self
    have others := ih (read start stream) fun k member => present k (List.mem_cons_of_mem _ member)
    simp [visit, fetch_of_get? found, set_of_get? found, put_self found, found, others]

theorem forEach_eq_visit (store : Store) (f : σ → Stream → σ × Stream) (start : σ) :
    store.forEach f start = visit f (store.ids.toList.map (·.2.key)) start store := rfl

/-- Reading every stream of a settled store meets each of them once, in the order of the ids. -/
theorem Settled.forEach_read (settled : store.Settled) (read : σ → Stream → σ) (start : σ) :
    store.forEach (fun result stream => (read result stream, stream)) start =
      .ok ((store.toList.map (·.2.2)).foldl read start, store) := by
  have streams : (store.ids.toList.map (·.2.key)).filterMap store.get? =
      store.toList.map (·.2.2) := by
    simp [toList, List.filterMap_map, List.map_filterMap, Function.comp_def]
  rw [← streams, forEach_eq_visit, visit_read read start fun k member => ?_]
  obtain ⟨⟨id, binding⟩, listed, rfl⟩ := List.mem_map.1 member
  rw [Std.ExtTreeMap.mem_toList_iff_getElem?_eq_some] at listed
  exact settled.exists_get? (Option.map_eq_some_iff.2 ⟨binding, listed, rfl⟩)

/-- A store that was just made, with or without room reserved. -/
inductive Fresh : Store → Prop where
  | empty : Fresh .empty
  | withCapacity {capacity : Nat} {store : Store} (made : Store.withCapacity capacity = .ok store) :
    Fresh store

theorem Fresh.exists_capacity (fresh : store.Fresh) :
    ∃ capacity, store = { slab := { capacity } } := by
  cases fresh with
  | empty => exact ⟨0, rfl⟩
  | withCapacity made =>
    rename_i capacity
    unfold Store.withCapacity Slab.withCapacity at made
    split at made
    · cases made
      exact ⟨capacity, rfl⟩
    · cases made

theorem Fresh.get? (fresh : store.Fresh) (key : Nat) : store.get? key = none := by
  obtain ⟨capacity, rfl⟩ := fresh.exists_capacity
  simp [Store.get?, Slab.get?]

theorem Fresh.getElem?_ids (fresh : store.Fresh) (id : StreamId) : store.ids[id]? = none := by
  obtain ⟨capacity, rfl⟩ := fresh.exists_capacity
  exact Std.ExtTreeMap.getElem?_empty

theorem Fresh.key? (fresh : store.Fresh) (id : StreamId) : store.key? id = none :=
  key?_eq_none_iff.2 (fresh.getElem?_ids id)

theorem Fresh.settled (fresh : store.Fresh) : store.Settled where
  slab := by
    obtain ⟨capacity, rfl⟩ := fresh.exists_capacity
    exact ⟨[], Slab.freeList_nil capacity⟩
  occupied bound := by
    rw [fresh.getElem?_ids] at bound
    cases bound
  injective bound := by
    rw [fresh.getElem?_ids] at bound
    cases bound
  covered present := by
    rw [fresh.get?] at present
    cases present
  unreserved id := by
    rw [fresh.getElem?_ids]
    exact nofun

end Store

end StreamMux
