import StreamMux.Store.Basic

/-!
# Entries

Probing an id once gives an entry: the stream that is bound to it, or the
right to bind it. A vacant entry reserves its id in the store. Filling the
entry binds the id to a new stream; dropping it makes the id unbound again.
-/

namespace StreamMux

/-- The right to bind an id. It is used up when the entry is filled, dropped or moved. -/
structure VacantEntry where
  id : StreamId
  pending : Bool := true
  deriving DecidableEq, Repr

inductive Entry where
  | occupied (id : StreamId) (key : Nat)
  | vacant (entry : VacantEntry)
  deriving DecidableEq, Repr

/-- Probes an id, which counts as a lookup; an unbound id becomes reserved. -/
def Store.entry (store : Store) (id : StreamId) : Entry × Store :=
  match store.key? id with
  | some key => (.occupied id key, store.countLookup true)
  | none =>
    (.vacant { id }, { store.countLookup false with ids := store.ids.insert id .reserved })

namespace VacantEntry

def consumed (entry : VacantEntry) : VacantEntry := { entry with pending := false }

def insert (entry : VacantEntry) (stream : Stream) (store : Store) :
    Checked (Nat × VacantEntry × Store) := do
  if !entry.pending then
    throw .entryConsumed
  let (key, slab) ← store.slab.insert stream
  return (key, entry.consumed,
    { slab
      ids := store.ids.insert entry.id (.slot key)
      stats := { store.stats with inserts := store.stats.inserts + 1 } })

/-- Drops the entry: its id is unbound again, unless the right was used up. -/
def release (entry : VacantEntry) (store : Store) : VacantEntry × Store :=
  if entry.pending then (entry.consumed, { store with ids := store.ids.erase entry.id })
  else (entry, store)

/-- Hands the right over to a new entry; the second one is what stays behind. -/
def move (entry : VacantEntry) : VacantEntry × VacantEntry := (entry, entry.consumed)

/-- Drops `target` and hands the right of `source` over in its place. -/
def assign (target source : VacantEntry) (store : Store) :
    (VacantEntry × VacantEntry) × Store :=
  (source.move, (target.release store).2)

@[simp] theorem pending_consumed (entry : VacantEntry) : entry.consumed.pending = false := rfl

/-- An entry that was used up cannot be filled. -/
theorem insert_of_not_pending {entry : VacantEntry} (h : entry.pending = false)
    (stream : Stream) (store : Store) :
    entry.insert stream store = .error .entryConsumed := by
  simp [insert, h, throw, throwThe, MonadExceptOf.throw, bind, Except.bind]

/-- A probe of an unbound id that is dropped leaves the bindings as they were. -/
theorem ids_release_entry {store after : Store} {id : StreamId} {entry : VacantEntry}
    (h : store.entry id = (.vacant entry, after)) :
    (entry.release after).2.ids = store.ids := by
  unfold Store.entry at h
  split at h
  · cases h
  · rename_i unbound
    cases h
    have missing : store.ids[id]? = none := by
      simpa [Store.key?] using unbound
    ext k : 1
    simp only [release, if_true]
    rw [Std.ExtTreeMap.getElem?_erase, Std.ExtTreeMap.getElem?_insert]
    by_cases same : k = id
    · subst same
      simp [missing]
    · have apart : compare id k ≠ .eq := fun eq => same (Std.LawfulEqOrd.eq_of_compare eq).symm
      simp [apart]

end VacantEntry

end StreamMux
