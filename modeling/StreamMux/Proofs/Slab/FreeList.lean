import Mathlib.Data.List.Perm.Subperm
import StreamMux.Slab.Basic

/-!
# The free list of a slab

The vacant slots of a slab form one chain, from the first free slot to the end
of the slots. Insertion takes the first slot of the chain and removal puts one
in front of it, so insertion always finds a vacant slot or appends one
(`Slab.FreeList.insert`). Every slot is in the chain or occupied, so the size is the number of
occupied slots (`Slab.FreeList.size_eq`).
-/

namespace StreamMux

/-- The slots `free`, in this order, link to one another from `key` on, and the
last one to the end of the slots. -/
def FreeChain (slots : Array (Slot α)) : Nat → List Nat → Prop
  | key, [] => key = slots.size
  | key, first :: rest =>
    key = first ∧ ∃ next, slots[first]? = some (.vacant next) ∧ FreeChain slots next rest

/-- A slot outside a chain can be filled or vacated without breaking the chain. -/
theorem FreeChain.setIfInBounds {slots : Array (Slot α)} {key : Nat} {free : List Nat}
    (chain : FreeChain slots key free) {changed : Nat} (outside : changed ∉ free) (slot : Slot α) :
    FreeChain (slots.setIfInBounds changed slot) key free := by
  induction free generalizing key with
  | nil =>
    rw [FreeChain, Array.size_setIfInBounds]
    exact chain
  | cons first rest ih =>
    obtain ⟨start, next, linked, following⟩ := chain
    have apart : changed ≠ first := by
      rintro rfl
      exact outside List.mem_cons_self
    refine ⟨start, next, ?_, ih following fun member => outside (List.mem_cons_of_mem _ member)⟩
    rw [Array.getElem?_setIfInBounds_ne apart]
    exact linked

/-- Every slot of a chain is vacant. -/
theorem FreeChain.vacant_of_mem {slots : Array (Slot α)} {key : Nat} {free : List Nat}
    (chain : FreeChain slots key free) {k : Nat} (member : k ∈ free) :
    ∃ next, slots[k]? = some (.vacant next) := by
  induction free generalizing key with
  | nil => cases member
  | cons first rest ih =>
    obtain ⟨-, next, linked, following⟩ := chain
    rcases List.mem_cons.1 member with rfl | later
    · exact ⟨next, linked⟩
    · exact ih following later

namespace Slab

/-- The vacant slots of the slab are `free`, in the order in which insertions use them. -/
structure FreeList (slab : Slab α) (free : List Nat) : Prop where
  chain : FreeChain slab.slots slab.vacantKey free
  nodup : free.Nodup
  covers : ∀ {key next}, slab.slots[key]? = some (.vacant next) → key ∈ free
  count : slab.size + free.length = slab.slots.size

def Sound (slab : Slab α) : Prop := ∃ free, slab.FreeList free

def put (slab : Slab α) (key : Nat) (value : α) : Slab α :=
  { slab with slots := slab.slots.setIfInBounds key (.occupied value) }

variable {slab : Slab α} {key : Nat} {value : α} {free : List Nat}

theorem slots_of_get? (present : slab.get? key = some value) :
    slab.slots[key]? = some (.occupied value) := by
  obtain ⟨slot, found, held⟩ := Option.bind_eq_some_iff.1 present
  cases slot with
  | vacant next => cases held
  | occupied other =>
    cases held
    exact found

theorem get?_put (present : slab.get? key = some value) (new : α) (k : Nat) :
    (slab.put key new).get? k = if k = key then some new else slab.get? k := by
  have bound := lt_size_of_get? present
  by_cases same : k = key
  · subst same
    simp [put, get?, bound]
  · simp [put, get?, same, Ne.symm same]

theorem fetch_of_get? (present : slab.get? key = some value) : slab.fetch key = .ok value :=
  fetch_eq_ok_iff.2 present

theorem modify_of_get? (present : slab.get? key = some value) (f : α → α) :
    slab.modify key f = .ok (slab.put key (f value)) := by
  simp [modify, fetch_of_get? present, put]

/-- The slot that is handed out next holds no value. -/
theorem FreeList.get?_vacantKey (sound : slab.FreeList free) :
    slab.get? slab.vacantKey = none := by
  cases free with
  | nil =>
    have atEnd : slab.vacantKey = slab.slots.size := sound.chain
    simp [get?, atEnd]
  | cons first rest =>
    obtain ⟨start, next, linked, -⟩ := sound.chain
    simp [get?, start, linked]

theorem FreeList.occupied_notMem (sound : slab.FreeList free)
    (present : slab.get? key = some value) : key ∉ free := by
  intro member
  obtain ⟨next, vacant⟩ := sound.chain.vacant_of_mem member
  rw [slots_of_get? present] at vacant
  cases vacant

/-- Not every slot is vacant where one is occupied. -/
theorem FreeList.length_lt_of_get? (sound : slab.FreeList free)
    (present : slab.get? key = some value) : free.length < slab.slots.size := by
  have within : key :: free ⊆ List.range slab.slots.size := by
    intro k member
    rw [List.mem_range]
    rcases List.mem_cons.1 member with rfl | later
    · exact lt_size_of_get? present
    · obtain ⟨next, vacant⟩ := sound.chain.vacant_of_mem later
      exact (Array.getElem?_eq_some_iff.1 vacant).1
  have distinct := List.nodup_cons.2 ⟨sound.occupied_notMem present, sound.nodup⟩
  have shorter := (List.subperm_of_subset distinct within).length_le
  rw [List.length_cons, List.length_range] at shorter
  exact shorter

/-- A slab without slots has no free ones, however much room is reserved. -/
theorem freeList_nil (capacity : Nat) : ({ capacity } : Slab α).FreeList [] where
  chain := rfl
  nodup := List.nodup_nil
  covers := by simp
  count := rfl

/-- Insertion cannot fail: it fills the first free slot, or a new one when no slot is free. -/
theorem FreeList.insert (sound : slab.FreeList free) (value : α) :
    ∃ after, slab.insert value = .ok (slab.vacantKey, after) ∧ after.FreeList free.tail := by
  cases free with
  | nil =>
    have atEnd : slab.vacantKey = slab.slots.size := sound.chain
    have full : slab.size = slab.slots.size := by simpa using sound.count
    refine ⟨_, if_pos atEnd, ?_, List.nodup_nil, ?_, ?_⟩
    · simp [FreeChain, atEnd]
    · intro k next vacant
      rw [Array.getElem?_push] at vacant
      split at vacant
      · cases vacant
      · exact sound.covers vacant
    · simp [full]
  | cons first rest =>
    obtain ⟨start, next, linked, following⟩ := sound.chain
    have inside : first < slab.slots.size := (Array.getElem?_eq_some_iff.1 linked).1
    have notEnd : slab.vacantKey ≠ slab.slots.size := by omega
    obtain ⟨outside, nodup⟩ := List.nodup_cons.1 sound.nodup
    have filled : slab.insert value = .ok (slab.vacantKey,
        { slab with
          slots := slab.slots.setIfInBounds first (.occupied value)
          size := slab.size + 1
          vacantKey := next }) := by
      rw [Slab.insert, if_neg notEnd, start, linked]
    refine ⟨_, filled, ?_, nodup, ?_, ?_⟩
    · exact following.setIfInBounds outside _
    · intro k other vacant
      by_cases same : first = k
      · subst same
        simp [inside] at vacant
      · rw [Array.getElem?_setIfInBounds_ne same] at vacant
        exact (List.mem_cons.1 (sound.covers vacant)).resolve_left (Ne.symm same)
    · have count := sound.count
      simp only [List.length_cons] at count
      simp only [List.tail_cons, Array.size_setIfInBounds]
      omega

/-- What an insertion answers is a slot that was vacant. -/
theorem Sound.get?_of_insert {after : Slab α} (sound : slab.Sound)
    (inserted : slab.insert value = .ok (key, after)) : slab.get? key = none ∧ after.Sound := by
  obtain ⟨free, list⟩ := sound
  obtain ⟨filled, succeeds, remaining⟩ := list.insert value
  rw [succeeds] at inserted
  cases inserted
  exact ⟨list.get?_vacantKey, _, remaining⟩

/-- A removed slot is the next one to be filled. -/
theorem FreeList.remove? (sound : slab.FreeList free) (present : slab.get? key = some value) :
    ∃ after, slab.remove? key = some (value, after) ∧ after.vacantKey = key ∧
      after.FreeList (key :: free) := by
  have inside := lt_size_of_get? present
  have outside := sound.occupied_notMem present
  refine ⟨_, by rw [Slab.remove?, present, Option.map_some], rfl, ?_, ?_, ?_, ?_⟩
  · exact ⟨rfl, slab.vacantKey, by simp [inside], sound.chain.setIfInBounds outside _⟩
  · exact List.nodup_cons.2 ⟨outside, sound.nodup⟩
  · intro k next vacant
    by_cases same : key = k
    · subst same
      exact List.mem_cons_self
    · rw [Array.getElem?_setIfInBounds_ne same] at vacant
      exact List.mem_cons_of_mem _ (sound.covers vacant)
  · have count := sound.count
    have vacant := sound.length_lt_of_get? present
    simp only [List.length_cons, Array.size_setIfInBounds]
    omega

theorem Sound.of_remove? {after : Slab α} (sound : slab.Sound)
    (removed : slab.remove? key = some (value, after)) : after.Sound := by
  obtain ⟨free, list⟩ := sound
  obtain ⟨vacated, succeeds, -, remaining⟩ := list.remove? (get?_remove? removed key).1
  rw [succeeds] at removed
  cases removed
  exact ⟨_, remaining⟩

/-- Insertion gives up no slot. -/
theorem slots_size_of_insert {after : Slab α} (inserted : slab.insert value = .ok (key, after)) :
    slab.slots.size ≤ after.slots.size := by
  unfold insert at inserted
  dsimp only at inserted
  split at inserted
  · cases inserted
    simp
  · split at inserted
    · cases inserted
      simp
    · cases inserted

theorem slots_size_of_remove? {after : Slab α} (removed : slab.remove? key = some (value, after)) :
    after.slots.size = slab.slots.size := by
  obtain ⟨found, present, pair⟩ := Option.map_eq_some_iff.1 removed
  cases pair
  simp

/-- The occupied slots, in order. -/
def keys (slab : Slab α) : List Nat := (List.range slab.slots.size).filter slab.contains

theorem contains_eq_true_iff : slab.contains key = true ↔ ∃ value, slab.get? key = some value :=
  Option.isSome_iff_exists

theorem mem_keys : key ∈ slab.keys ↔ ∃ value, slab.get? key = some value := by
  rw [keys, List.mem_filter, contains_eq_true_iff, List.mem_range, and_iff_right_iff_imp]
  intro ⟨value, present⟩
  exact lt_size_of_get? present

theorem nodup_keys (slab : Slab α) : slab.keys.Nodup := List.nodup_range.filter _

/-- A slot is free exactly when it is vacant. -/
theorem FreeList.mem_iff (sound : slab.FreeList free) :
    key ∈ free ↔ ∃ next, slab.slots[key]? = some (.vacant next) := by
  constructor
  · exact sound.chain.vacant_of_mem
  · intro ⟨next, vacant⟩
    exact sound.covers vacant

/-- A slot is occupied or free. -/
theorem FreeList.partition (sound : slab.FreeList free) :
    (slab.keys ++ free).Perm (List.range slab.slots.size) := by
  have apart : (slab.keys ++ free).Nodup := by
    refine List.nodup_append.2 ⟨slab.nodup_keys, sound.nodup, ?_⟩
    rintro key occupied _ vacant rfl
    obtain ⟨value, present⟩ := mem_keys.1 occupied
    exact sound.occupied_notMem present vacant
  rw [List.perm_ext_iff_of_nodup apart List.nodup_range]
  intro key
  rw [List.mem_append, mem_keys, sound.mem_iff, List.mem_range]
  constructor
  · rintro (⟨value, present⟩ | ⟨next, vacant⟩)
    · exact lt_size_of_get? present
    · exact (Array.getElem?_eq_some_iff.1 vacant).1
  · intro inside
    have found : slab.slots[key]? = some slab.slots[key] := Array.getElem?_eq_getElem inside
    cases slot : slab.slots[key] with
    | vacant next => exact .inr ⟨next, by rw [found, slot]⟩
    | occupied value => exact .inl ⟨value, by simp [get?, found, slot]⟩

/-- The size of a slab is the number of its occupied slots. -/
theorem FreeList.size_eq (sound : slab.FreeList free) : slab.size = slab.keys.length := by
  have slots := sound.partition.length_eq
  have count := sound.count
  rw [List.length_append, List.length_range] at slots
  omega

end Slab

end StreamMux
