import StreamMux.Proofs.Store.Sound

/-!
# Bound ids and occupied slots

In a settled store the bound ids and the occupied slots are matched one to one, so there are as
many of the ones as of the others, and the keys that can be used are those of the bound ids
(`Store.Settled.bijective`).
-/

namespace StreamMux.Store

variable {store : Store} {id : StreamId} {key : Nat} {stream : Stream}

def boundKeys (store : Store) : List Nat := store.ids.toList.map (·.2.key)

theorem mem_boundKeys : key ∈ store.boundKeys ↔ ∃ id, store.key? id = some key := by
  rw [boundKeys, List.mem_map]
  constructor
  · rintro ⟨⟨id, binding⟩, listed, rfl⟩
    rw [Std.ExtTreeMap.mem_toList_iff_getElem?_eq_some] at listed
    exact ⟨id, Option.map_eq_some_iff.2 ⟨binding, listed, rfl⟩⟩
  · intro ⟨id, bound⟩
    obtain ⟨binding, listed, rfl⟩ := Option.map_eq_some_iff.1 bound
    rw [← Std.ExtTreeMap.mem_toList_iff_getElem?_eq_some] at listed
    exact ⟨(id, binding), listed, rfl⟩

theorem length_boundKeys (store : Store) : store.boundKeys.length = store.size := by
  rw [boundKeys, List.length_map, Std.ExtTreeMap.length_toList, size]

/-- No two ids of a settled store have one key. -/
theorem Settled.nodup_boundKeys (settled : store.Settled) : store.boundKeys.Nodup := by
  have distinct : store.ids.toList.Pairwise fun a b => ¬compare a.1 b.1 = .eq :=
    Std.ExtTreeMap.distinct_keys_toList
  rw [boundKeys, List.Nodup, List.pairwise_map]
  refine distinct.imp_of_mem fun {a b} first second apart same => ?_
  rw [Std.ExtTreeMap.mem_toList_iff_getElem?_eq_some] at first second
  have bound : store.key? a.1 = some a.2.key := Option.map_eq_some_iff.2 ⟨_, first, rfl⟩
  have bound' : store.key? b.1 = some a.2.key := Option.map_eq_some_iff.2 ⟨_, second, same.symm⟩
  apply apart
  rw [settled.key?_injective bound bound']
  exact Std.ReflOrd.compare_self

/-- A slot of a settled store is occupied exactly when an id is bound to it. -/
theorem Settled.occupied_iff (settled : store.Settled) :
    (∃ stream, store.get? key = some stream) ↔ ∃ id, store.key? id = some key := by
  constructor
  · intro ⟨stream, present⟩
    exact settled.exists_key? present
  · intro ⟨id, bound⟩
    exact settled.exists_get? bound

/-- The keys of the bound ids are the occupied slots. -/
theorem Settled.boundKeys_perm (settled : store.Settled) :
    store.boundKeys.Perm store.slab.keys := by
  rw [List.perm_ext_iff_of_nodup settled.nodup_boundKeys store.slab.nodup_keys]
  intro key
  rw [mem_boundKeys, Slab.mem_keys]
  exact settled.occupied_iff.symm

/-- There are as many bound ids as occupied slots. -/
theorem Settled.size_eq (settled : store.Settled) : store.size = store.slab.size := by
  obtain ⟨free, list⟩ := settled.slab
  rw [list.size_eq, ← settled.boundKeys_perm.length_eq, length_boundKeys]

/-- Reading a key fails when its slot is not occupied. -/
theorem fetch_error_iff :
    (∃ fault, store.fetch key = .error fault) ↔ ¬∃ stream, store.get? key = some stream := by
  constructor
  · rintro ⟨fault, fetched⟩ ⟨stream, present⟩
    rw [fetch_of_get? present] at fetched
    cases fetched
  · intro missing
    cases outcome : store.fetch key with
    | ok stream => exact absurd ⟨stream, fetch_eq_ok_iff.1 outcome⟩ missing
    | error fault => exact ⟨fault, rfl⟩

/-- A slot can be written exactly when it can be read. -/
theorem modify_error_iff (write : Stream → Stream) :
    (∃ fault, store.modify key write = .error fault) ↔ ∃ fault, store.fetch key = .error fault := by
  unfold modify Slab.modify fetch
  cases store.slab.fetch key with
  | error fault => simp
  | ok stream => simp

/-- The bound ids and the occupied slots of a store are matched one to one. -/
structure Bijective (store : Store) : Prop where
  occupied : ∀ id key, store.key? id = some key → ∃ stream, store.get? key = some stream
  injective : ∀ a b key, store.key? a = some key → store.key? b = some key → a = b
  covered : ∀ key stream, store.get? key = some stream → ∃ id, store.key? id = some key
  /-- No id has the placeholder of a probe. -/
  unreserved : ∀ id : StreamId, store.ids[id]? ≠ some .reserved
  size : store.size = store.slab.size
  /-- The keys that cannot be read are those that no id has. -/
  fetch : ∀ key, (∃ fault, store.fetch key = .error fault) ↔ ∀ id, store.key? id ≠ some key
  /-- The keys that cannot be written are the same. -/
  modify : ∀ key write,
    (∃ fault, store.modify key write = .error fault) ↔ ∀ id, store.key? id ≠ some key

theorem Settled.bijective (settled : store.Settled) : store.Bijective := by
  have fetch (key : Nat) :
      (∃ fault, store.fetch key = .error fault) ↔ ∀ id, store.key? id ≠ some key := by
    rw [fetch_error_iff, settled.occupied_iff, not_exists]
  constructor
  · intro id key bound
    exact settled.exists_get? bound
  · intro a b key first second
    exact settled.key?_injective first second
  · intro key stream present
    exact settled.exists_key? present
  · exact settled.unreserved
  · exact settled.size_eq
  · exact fetch
  · intro key write
    rw [modify_error_iff, fetch]

end StreamMux.Store
