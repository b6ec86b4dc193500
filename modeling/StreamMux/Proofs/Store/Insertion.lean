import StreamMux.Proofs.Store.Sound

/-!
# Insertion into a settled store and removal from it

A stream enters a store by insertion or by filling the entry of a probe, and leaves it by
removal. Each binds or unbinds one id, fills or vacates one slot and moves nothing else
(`Store.Inserted`, `Store.Removed`), and none of them fails on a settled store but insertion
under an id that is bound.
-/

namespace StreamMux.Store

variable {store : Store} {id : StreamId} {key : Nat} {stream : Stream}

/-- A stream was put into a vacant slot and its id bound to that slot. Nothing else moved. -/
structure Inserted (before : Store) (id : StreamId) (stream : Stream) (key : Nat)
    (after : Store) : Prop where
  settled : after.Settled
  vacant : before.get? key = none
  get? : ∀ k, after.get? k = if k = key then some stream else before.get? k
  key? : ∀ k, after.key? k = if k = id then some key else before.key? k
  size : after.size = before.size + 1

/-- An id was unbound and its slot vacated. Nothing else moved. -/
structure Removed (before : Store) (id : StreamId) (key : Nat) (after : Store) : Prop where
  settled : after.Settled
  get? : ∀ k, after.get? k = if k = key then none else before.get? k
  key? : ∀ k, after.key? k = if k = id then none else before.key? k
  size : after.size + 1 = before.size

/-- The slot of a new stream may be bound to any id that has no slot yet. -/
theorem Sound.bind_new {ids : Std.ExtTreeMap StreamId Binding} {slab : Slab Stream} {stats : Stats}
    (sound : store.Sound) (unbound : ∀ key, store.ids[id]? ≠ some (.slot key))
    (inserted : store.slab.insert stream = .ok (key, slab))
    (bound : ∀ k, ids[k]? = if k = id then some (.slot key) else store.ids[k]?) :
    ({ slab, ids, stats } : Store).Sound := by
  obtain ⟨vacant, sound'⟩ := sound.slab.get?_of_insert inserted
  have placed (k : Nat) : slab.get? k = if k = key then some stream else store.get? k :=
    Slab.get?_insert inserted k
  have elsewhere {other : StreamId} {k : Nat} (before : store.ids[other]? = some (.slot k)) :
      k ≠ key := by
    rintro rfl
    obtain ⟨old, present⟩ := sound.occupied before
    rw [get?, vacant] at present
    cases present
  refine ⟨sound', ?_, ?_, ?_⟩
  · intro other k found
    show ∃ new, slab.get? k = some new
    rw [bound] at found
    split at found
    · cases found
      exact ⟨stream, by rw [placed, if_pos rfl]⟩
    · obtain ⟨old, present⟩ := sound.occupied found
      exact ⟨old, by rw [placed, if_neg (elsewhere found), present]⟩
  · intro a b k left right
    rw [bound] at left right
    split at left <;> split at right
    · rename_i first second
      rw [first, second]
    · cases left
      exact absurd rfl (elsewhere right)
    · cases right
      exact absurd rfl (elsewhere left)
    · exact sound.injective left right
  · intro k new present
    rw [Store.get?, placed] at present
    by_cases same : k = key
    · exact ⟨id, by rw [bound, if_pos rfl, same]⟩
    · rw [if_neg same] at present
      obtain ⟨other, before⟩ := sound.covered present
      have apart : other ≠ id := by
        rintro rfl
        exact unbound k before
      exact ⟨other, by rw [bound, if_neg apart, before]⟩

/-- Binding an unbound id to the slot of a new stream is an insertion, whichever way it is done. -/
theorem Settled.inserted {ids : Std.ExtTreeMap StreamId Binding} {slab : Slab Stream}
    {stats : Stats} (settled : store.Settled) (unbound : store.key? id = none)
    (placed : store.slab.insert stream = .ok (key, slab))
    (bound : ∀ k, ids[k]? = if k = id then some (.slot key) else store.ids[k]?)
    (size : ids.size = store.ids.size + 1) : Inserted store id stream key { slab, ids, stats } where
  settled := by
    have missing := key?_eq_none_iff.1 unbound
    refine ⟨settled.toSound.bind_new (by simp [missing]) placed bound, fun k => ?_⟩
    rw [bound]
    split
    · exact nofun
    · exact settled.unreserved k
  vacant := (settled.slab.get?_of_insert placed).1
  get? k := Slab.get?_insert placed k
  key? k := by
    rw [key?, bound]
    split
    · rfl
    · rfl
  size := size

theorem insert_of_unbound {slab : Slab Stream} (unbound : store.key? id = none)
    (placed : store.slab.insert stream = .ok (key, slab)) :
    store.insert id stream = .ok (key,
      { slab
        ids := store.ids.insert id (.slot key)
        stats := { store.stats with inserts := store.stats.inserts + 1 } }) := by
  have unknown : store.contains id = false := by
    rw [contains_eq_isSome_key?, unbound, Option.isSome_none]
  simp [Store.insert, placed, unknown]

/-- Insertion under an unbound id succeeds. -/
theorem Settled.insert (settled : store.Settled) (unbound : store.key? id = none)
    (stream : Stream) :
    ∃ key after, store.insert id stream = .ok (key, after) ∧ Inserted store id stream key after ∧
      after.stats = { store.stats with inserts := store.stats.inserts + 1 } := by
  obtain ⟨free, list⟩ := settled.slab
  obtain ⟨slab, placed, -⟩ := list.insert stream
  refine ⟨_, _, insert_of_unbound unbound placed, ?_, rfl⟩
  exact settled.inserted unbound placed (fun k => getElem?_insert_id _ id k _)
    (size_insert_new (key?_eq_none_iff.1 unbound) _)

/-- Insertion under a bound id is a fault. -/
theorem Settled.insert_of_bound (settled : store.Settled) (bound : store.key? id = some key)
    (stream : Stream) : store.insert id stream = .error .idInUse := by
  have known : store.contains id = true := by
    rw [contains_eq_isSome_key?, bound, Option.isSome_some]
  obtain ⟨free, list⟩ := settled.slab
  obtain ⟨slab, placed, -⟩ := list.insert stream
  simp [Store.insert, placed, known]

/-- A probe finds the stream of a bound id. -/
theorem entry_of_bound (bound : store.key? id = some key) :
    store.entry id = (.occupied id key, store.countLookup true) := by
  rw [entry, bound]

def reserve (store : Store) (id : StreamId) : Store :=
  { store.countLookup false with ids := store.ids.insert id .reserved }

/-- A probe of an unbound id answers an entry. -/
theorem entry_of_unbound (unbound : store.key? id = none) :
    store.entry id = (.vacant { id }, store.reserve id) := by
  rw [entry, unbound]
  rfl

/-- Filling the entry of an unbound id is an insertion. -/
theorem Settled.fill (settled : store.Settled) (unbound : store.key? id = none)
    (stream : Stream) :
    ∃ key after,
      ({ id } : VacantEntry).insert stream (store.reserve id) =
        .ok (key, { id, pending := false }, after) ∧
      Inserted store id stream key after ∧
      after.stats = { store.stats with
        inserts := store.stats.inserts + 1
        lookupMisses := store.stats.lookupMisses + 1 } := by
  obtain ⟨free, list⟩ := settled.slab
  obtain ⟨slab, placed, -⟩ := list.insert stream
  have filled : ({ id } : VacantEntry).insert stream (store.reserve id) =
      .ok (store.slab.vacantKey, { id, pending := false },
        { slab
          ids := (store.ids.insert id .reserved).insert id (.slot store.slab.vacantKey)
          stats := { store.stats with
            inserts := store.stats.inserts + 1
            lookupMisses := store.stats.lookupMisses + 1 } }) := by
    simp [VacantEntry.insert, VacantEntry.consumed, reserve, placed]
  refine ⟨_, _, filled, settled.inserted unbound placed (fun k => ?_) ?_, rfl⟩
  · rw [getElem?_insert_id, getElem?_insert_id]
    split <;> rfl
  · rw [size_insert_old (by rw [getElem?_insert_id, if_pos rfl]),
      size_insert_new (key?_eq_none_iff.1 unbound)]

/-- Dropping the entry of an unbound id leaves the store as it was, but for the lookup. -/
theorem release_of_unbound (unbound : store.key? id = none) :
    (({ id } : VacantEntry).release (store.reserve id)).2 = store.countLookup false := by
  have ids := VacantEntry.ids_release_entry (entry_of_unbound unbound)
  simp only [VacantEntry.release, reserve, if_true] at ids ⊢
  rw [ids]
  rfl

/-- A bound id may be unbound once its slot is vacated. -/
theorem Sound.unbind {ids : Std.ExtTreeMap StreamId Binding} {slab : Slab Stream} {stats : Stats}
    (sound : store.Sound) (known : store.ids[id]? = some (.slot key))
    (vacated : store.slab.remove? key = some (stream, slab))
    (left : ∀ k, ids[k]? = if k = id then none else store.ids[k]?) :
    ({ slab, ids, stats } : Store).Sound := by
  have gone (k : Nat) : slab.get? k = if k = key then none else store.get? k :=
    (Slab.get?_remove? vacated k).2
  have elsewhere {other : StreamId} {k : Nat} (apart : other ≠ id)
      (found : store.ids[other]? = some (.slot k)) : k ≠ key := by
    rintro rfl
    exact apart (sound.injective found known)
  refine ⟨sound.slab.of_remove? vacated, ?_, ?_, ?_⟩
  · intro other k found
    show ∃ new, slab.get? k = some new
    rw [left] at found
    split at found
    · cases found
    · rename_i apart
      rw [gone, if_neg (elsewhere apart found)]
      exact sound.occupied found
  · intro a b k first second
    rw [left] at first second
    split at first <;> split at second
    · cases first
    · cases first
    · cases second
    · exact sound.injective first second
  · intro k old found
    rw [Store.get?, gone] at found
    by_cases same : k = key
    · rw [if_pos same] at found
      cases found
    · rw [if_neg same] at found
      obtain ⟨other, before⟩ := sound.covered found
      have apart : other ≠ id := by
        rintro rfl
        rw [known] at before
        cases before
        exact same rfl
      exact ⟨other, by rw [left, if_neg apart, before]⟩

theorem remove_of_bound {slab : Slab Stream} (bound : store.key? id = some key)
    (vacated : store.slab.remove? key = some (stream, slab)) :
    store.remove id = .ok (some stream,
      { slab
        ids := store.ids.erase id
        stats := { store.stats with removes := store.stats.removes + 1 } }) := by
  simp [Store.remove, bound, Slab.remove, vacated]

/-- Removal of a bound id succeeds, and answers its stream. -/
theorem Settled.remove (settled : store.Settled) (bound : store.key? id = some key)
    (present : store.get? key = some stream) :
    ∃ after, store.remove id = .ok (some stream, after) ∧ Removed store id key after ∧
      after.stats = { store.stats with removes := store.stats.removes + 1 } := by
  obtain ⟨free, list⟩ := settled.slab
  obtain ⟨slab, vacated, -, -⟩ := list.remove? present
  have known := settled.key?_eq_some_iff.1 bound
  have left (k : StreamId) : (store.ids.erase id)[k]? = if k = id then none else store.ids[k]? :=
    getElem?_erase_id ..
  refine ⟨_, remove_of_bound bound vacated,
    ⟨⟨settled.toSound.unbind known vacated left, fun k => ?_⟩,
      fun k => (Slab.get?_remove? vacated k).2, fun k => ?_, size_erase_old known⟩, rfl⟩
  · rw [left]
    split
    · exact nofun
    · exact settled.unreserved k
  · rw [key?, left]
    split <;> rfl

end StreamMux.Store
