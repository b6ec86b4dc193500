import Std.Data.ExtTreeMap
import StreamMux.Stream.Basic
import StreamMux.StreamId

/-!
# Stream store

A store holds the live streams of one connection in a slab and binds each
stream id to the key of its stream. Everything else refers to streams by key.
Lookups are counted. Main statements: what a change through a key does to the
streams seen through keys (`Store.get?_modify`) and what it leaves alone
(`Store.ids_of_modify`).
-/

namespace StreamMux

/-- What an id is bound to: a slot, or nothing yet while an entry reserves it. -/
inductive Binding where
  | reserved
  | slot (key : Nat)
  deriving DecidableEq, Repr

/-- The key of a binding; a reserved one has the largest 64-bit number, which is no slot. -/
def Binding.key : Binding → Nat
  | .reserved => UInt64.size - 1
  | .slot key => key

/-- How often a store was used since it was made. The counts have no bound: counters of 64 bits hold
them as long as there are fewer than `2 ^ 64` operations, and wrap around after that. -/
structure Stats where
  inserts : Nat := 0
  removes : Nat := 0
  lookupHits : Nat := 0
  lookupMisses : Nat := 0
  deriving DecidableEq, Repr

structure Store where
  slab : Slab Stream := .empty
  ids : Std.ExtTreeMap StreamId Binding := {}
  stats : Stats := {}
  deriving DecidableEq

namespace Store

def empty : Store := {}

def withCapacity (capacity : Nat) : Except SizeError Store := do
  return { slab := ← Slab.withCapacity capacity }

/-- The number of bound ids. -/
def size (store : Store) : Nat := store.ids.size

def isEmpty (store : Store) : Bool := store.ids.isEmpty

/-- The number of slots, occupied or not. -/
def slotCount (store : Store) : Nat := store.slab.slots.size

def contains (store : Store) (id : StreamId) : Bool := store.ids.contains id

def key? (store : Store) (id : StreamId) : Option Nat := store.ids[id]?.map Binding.key

def get? (store : Store) (key : Nat) : Option Stream := store.slab.get? key

def lookup (store : Store) (id : StreamId) : Option Stream := (store.key? id).bind store.get?

/-- The bound ids in order, each with its key and stream. -/
def toList (store : Store) : List (StreamId × Nat × Stream) :=
  store.ids.toList.filterMap fun (id, binding) =>
    (store.get? binding.key).map fun stream => (id, binding.key, stream)

def fetch (store : Store) (key : Nat) : Checked Stream := store.slab.fetch key

def modify (store : Store) (key : Nat) (f : Stream → Stream) : Checked Store := do
  return { store with slab := ← store.slab.modify key f }

def set (store : Store) (key : Nat) (stream : Stream) : Checked Store :=
  store.modify key fun _ => stream

def modifyAll (store : Store) (keys : List Nat) (f : Stream → Stream) : Checked Store :=
  keys.foldlM (fun store key => store.modify key f) store

/-- The same store after a lookup that found its id or did not. -/
def countLookup (store : Store) (found : Bool) : Store :=
  let stats := store.stats
  { store with
    stats :=
      if found then { stats with lookupHits := stats.lookupHits + 1 }
      else { stats with lookupMisses := stats.lookupMisses + 1 } }

/-- Looks up the key of `id`; a hit or a miss is counted. -/
def find (store : Store) (id : StreamId) : Option Nat × Store :=
  let key := store.key? id
  (key, store.countLookup key.isSome)

/-- Puts a stream into the slab and binds `id` to it; `id` has to be unbound. -/
def insert (store : Store) (id : StreamId) (stream : Stream) : Checked (Nat × Store) := do
  let (key, slab) ← store.slab.insert stream
  if store.contains id then
    throw .idInUse
  return (key,
    { slab
      ids := store.ids.insert id (.slot key)
      stats := { store.stats with inserts := store.stats.inserts + 1 } })

/-- Unbinds `id` and vacates its slot. The answer is the stream, if `id` was bound. -/
def remove (store : Store) (id : StreamId) : Checked (Option Stream × Store) :=
  match store.key? id with
  | none => return (none, store)
  | some key => do
    let (stream, slab) ← store.slab.remove key
    return (some stream,
      { slab
        ids := store.ids.erase id
        stats := { store.stats with removes := store.stats.removes + 1 } })

/-- Walks the streams at `keys`; `f` changes each and adds to a running result. -/
def visit (f : σ → Stream → σ × Stream) : List Nat → σ → Store → Checked (σ × Store)
  | [], result, store => return (result, store)
  | key :: rest, result, store => do
    let (result, stream) := f result (← store.fetch key)
    visit f rest result (← store.set key stream)

/-- Walks every stream bound to an id, in the order of the ids. -/
def forEach (store : Store) (f : σ → Stream → σ × Stream) (start : σ) : Checked (σ × Store) :=
  visit f (store.ids.toList.map fun (_, binding) => binding.key) start store

theorem fetch_eq_ok_iff {store : Store} {key : Nat} {stream : Stream} :
    store.fetch key = .ok stream ↔ store.get? key = some stream := Slab.fetch_eq_ok_iff

private theorem slab_of_modify {store after : Store} {key : Nat} {f : Stream → Stream}
    (h : store.modify key f = .ok after) :
    store.slab.modify key f = .ok after.slab ∧ after = { store with slab := after.slab } := by
  unfold modify at h
  cases changed : store.slab.modify key f with
  | error fault => rw [changed] at h; cases h
  | ok slab =>
    rw [changed] at h
    cases h
    exact ⟨rfl, rfl⟩

/-- A change through one key is seen at that key only. -/
theorem get?_modify {store after : Store} {key : Nat} {f : Stream → Stream}
    (h : store.modify key f = .ok after) (k : Nat) :
    after.get? k = if k = key then (store.get? key).map f else store.get? k :=
  Slab.get?_modify (slab_of_modify h).1 k

/-- A change through a key moves no binding. -/
theorem ids_of_modify {store after : Store} {key : Nat} {f : Stream → Stream}
    (h : store.modify key f = .ok after) : after.ids = store.ids := by
  rw [(slab_of_modify h).2]

theorem stats_of_modify {store after : Store} {key : Nat} {f : Stream → Stream}
    (h : store.modify key f = .ok after) : after.stats = store.stats := by
  rw [(slab_of_modify h).2]

private theorem compare_ne_eq {a b : StreamId} (h : a ≠ b) : compare a b ≠ .eq :=
  fun eq => h (Std.LawfulEqOrd.eq_of_compare eq)

private theorem insert_eq_ok {store after : Store} {id : StreamId} {stream : Stream} {key : Nat}
    (h : store.insert id stream = .ok (key, after)) :
    store.slab.insert stream = .ok (key, after.slab) ∧ store.contains id = false ∧
      after.ids = store.ids.insert id (.slot key) := by
  unfold insert at h
  cases placed : store.slab.insert stream with
  | error fault => rw [placed] at h; cases h
  | ok result =>
    rw [placed] at h
    cases known : store.contains id with
    | true => simp [known, bind, Except.bind, throw, throwThe, MonadExceptOf.throw] at h
    | false =>
      simp only [known, Bool.false_eq_true, if_false, bind, Except.bind, pure, Except.pure,
        Except.ok.injEq, Prod.mk.injEq] at h
      obtain ⟨rfl, rfl⟩ := h
      exact ⟨rfl, rfl, rfl⟩

/-- Insertion binds the one id, which was unbound, to the key that it answers. -/
theorem key?_insert {store after : Store} {id : StreamId} {stream : Stream} {key : Nat}
    (h : store.insert id stream = .ok (key, after)) (k : StreamId) :
    store.key? id = none ∧ after.key? k = if k = id then some key else store.key? k := by
  obtain ⟨-, unbound, bound⟩ := insert_eq_ok h
  refine ⟨?_, ?_⟩
  · rw [key?, Option.map_eq_none_iff, Std.ExtTreeMap.getElem?_eq_none]
    rwa [contains, ← Bool.not_eq_true, Std.ExtTreeMap.contains_iff_mem] at unbound
  · by_cases same : k = id
    · subst same
      simp [key?, bound, Binding.key]
    · simp [key?, bound, Std.ExtTreeMap.getElem?_insert, compare_ne_eq (Ne.symm same), same]

/-- Insertion puts the stream at the key that it answers, and changes no other. -/
theorem get?_insert {store after : Store} {id : StreamId} {stream : Stream} {key : Nat}
    (h : store.insert id stream = .ok (key, after)) (k : Nat) :
    after.get? k = if k = key then some stream else store.get? k :=
  Slab.get?_insert (insert_eq_ok h).1 k

/-- Removal unbinds the one id. -/
theorem key?_remove {store after : Store} {id : StreamId} {removed : Option Stream}
    (h : store.remove id = .ok (removed, after)) (k : StreamId) :
    after.key? k = if k = id then none else store.key? k := by
  unfold remove at h
  split at h
  · rename_i unbound
    cases h
    split <;> simp_all
  · rename_i key bound
    cases vacated : store.slab.remove key with
    | error fault => rw [vacated] at h; cases h
    | ok result =>
      rw [vacated] at h
      cases h
      by_cases same : k = id
      · subst same
        simp [key?]
      · simp [key?, Std.ExtTreeMap.getElem?_erase, compare_ne_eq (Ne.symm same), same]

/-- Removal of an unbound id does nothing. -/
theorem remove_of_unbound {store : Store} {id : StreamId} (unbound : store.key? id = none) :
    store.remove id = .ok (none, store) := by
  simp only [remove, unbound]
  rfl

@[simp] theorem slab_countLookup (store : Store) (found : Bool) :
    (store.countLookup found).slab = store.slab := rfl

@[simp] theorem ids_countLookup (store : Store) (found : Bool) :
    (store.countLookup found).ids = store.ids := rfl

end Store

end StreamMux
