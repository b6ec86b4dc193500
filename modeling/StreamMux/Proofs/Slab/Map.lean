import StreamMux.Proofs.Slab.FreeList

/-!
# Images of a slab

A slab seen through a function on its values: the same slots, occupied and
vacant alike. Each operation on the slab is the same operation on the image, so
two slabs with one image answer the same keys and have the same free list.
-/

namespace StreamMux

def Slot.map (f : α → β) : Slot α → Slot β
  | .vacant next => .vacant next
  | .occupied value => .occupied (f value)

@[simp] theorem Slot.value?_map (f : α → β) (slot : Slot α) :
    (slot.map f).value? = slot.value?.map f := by
  cases slot <;> rfl

@[simp] theorem Slot.map_eq_vacant_iff {f : α → β} {slot : Slot α} {next : Nat} :
    slot.map f = .vacant next ↔ slot = .vacant next := by
  cases slot <;> simp [map]

namespace Slab

def map (f : α → β) (slab : Slab α) : Slab β :=
  { slots := slab.slots.map (Slot.map f)
    size := slab.size
    vacantKey := slab.vacantKey
    capacity := slab.capacity }

variable {slab : Slab α} {key : Nat} {value : α} {free : List Nat}

@[simp] theorem get?_map (f : α → β) (slab : Slab α) (key : Nat) :
    (slab.map f).get? key = (slab.get? key).map f := by
  cases found : slab.slots[key]? <;> simp [get?, map, found]

theorem map_map (f : α → β) (g : β → γ) (slab : Slab α) :
    (slab.map f).map g = slab.map (g ∘ f) := by
  have compose : Slot.map g ∘ Slot.map f = Slot.map (g ∘ f) := by
    funext slot
    cases slot <;> rfl
  simp [map, compose]

theorem map_put (f : α → β) (slab : Slab α) (key : Nat) (value : α) :
    (slab.put key value).map f = (slab.map f).put key (f value) := by
  simp [map, put, Array.map_setIfInBounds, Slot.map]

/-- Putting back the value that is there changes nothing. -/
theorem put_self (present : slab.get? key = some value) : slab.put key value = slab := by
  have filled := slots_of_get? present
  have unchanged : slab.slots.setIfInBounds key (.occupied value) = slab.slots := by
    apply Array.ext_getElem?
    intro k
    by_cases same : key = k
    · subst same
      rw [filled]
      simp [lt_size_of_get? present]
    · rw [Array.getElem?_setIfInBounds_ne same]
  rw [put, unchanged]

/-- An image does not see a change that its function does not see. -/
theorem map_put_of_eq {f : α → β} (present : slab.get? key = some value) {new : α}
    (same : f new = f value) : (slab.put key new).map f = slab.map f := by
  rw [map_put, same]
  exact put_self (by rw [get?_map, present, Option.map_some])

/-- Slabs with one image and the same values are the same. -/
theorem ext_of_map {f : α → β} {other : Slab α} (image : other.map f = slab.map f)
    (values : ∀ key, other.get? key = slab.get? key) : other = slab := by
  obtain ⟨slots, size, vacantKey, capacity⟩ := slab
  obtain ⟨slots', size', vacantKey', capacity'⟩ := other
  obtain ⟨shapes, rfl, rfl, rfl⟩ := Slab.mk.inj image
  have same : slots' = slots := by
    apply Array.ext_getElem?
    intro key
    have shape : slots'[key]?.map (Slot.map f) = slots[key]?.map (Slot.map f) := by
      simpa using congrArg (·[key]?) shapes
    have value : slots'[key]?.bind Slot.value? = slots[key]?.bind Slot.value? := values key
    cases found : slots[key]? with
    | none => simpa [found] using shape
    | some slot =>
      rw [found] at shape value
      obtain ⟨slot', found', alike⟩ := Option.map_eq_some_iff.1 shape
      rw [found'] at value ⊢
      cases slot with
      | vacant next => rw [Slot.map_eq_vacant_iff.1 alike]
      | occupied one =>
        cases slot' with
        | vacant next => cases value
        | occupied other =>
          cases value
          rfl
  rw [same]

theorem freeChain_map {f : α → β} {slots : Array (Slot α)} {key : Nat} {free : List Nat} :
    FreeChain (slots.map (Slot.map f)) key free ↔ FreeChain slots key free := by
  induction free generalizing key with
  | nil => simp [FreeChain]
  | cons first rest ih => simp [FreeChain, ih]

theorem freeList_map {f : α → β} : (slab.map f).FreeList free ↔ slab.FreeList free := by
  have vacant (k next : Nat) :
      (slab.map f).slots[k]? = some (.vacant next) ↔ slab.slots[k]? = some (.vacant next) := by
    simp [map]
  constructor
  · intro sound
    exact ⟨freeChain_map.1 sound.chain, sound.nodup,
      fun found => sound.covers ((vacant ..).2 found), by simpa [map] using sound.count⟩
  · intro sound
    exact ⟨freeChain_map.2 sound.chain, sound.nodup,
      fun found => sound.covers ((vacant ..).1 found), by simpa [map] using sound.count⟩

theorem sound_map {f : α → β} : (slab.map f).Sound ↔ slab.Sound :=
  exists_congr fun _ => freeList_map

/-- Two slabs with one image have the same free list. -/
theorem Sound.of_map_eq {f : α → β} {other : Slab α} (sound : slab.Sound)
    (same : other.map f = slab.map f) : other.Sound :=
  sound_map.1 (same ▸ sound_map.2 sound)

theorem fetch_map (f : α → β) (slab : Slab α) (key : Nat) :
    (slab.map f).fetch key = f <$> slab.fetch key := by
  rw [fetch, fetch, get?_map]
  cases slab.get? key <;> rfl

/-- A change of a value is a change of its image. -/
theorem modify_map {f : α → β} {change : α → α} {image : β → β}
    (same : ∀ value, f (change value) = image (f value)) (slab : Slab α) (key : Nat) :
    (slab.map f).modify key image = map f <$> slab.modify key change := by
  rw [modify, modify, fetch_map, bind_map_left, map_bind]
  refine bind_congr fun value => ?_
  simp [map, Array.map_setIfInBounds, Slot.map, same]

theorem insert_map (f : α → β) (slab : Slab α) (value : α) :
    (slab.map f).insert (f value) = Prod.map id (map f) <$> slab.insert value := by
  unfold insert
  simp only [map, Array.size_map]
  split
  · simp [Slot.map, grownCapacity, map]
  · rw [Array.getElem?_map]
    cases slab.slots[slab.vacantKey]? with
    | none => rfl
    | some slot =>
      cases slot with
      | vacant next => simp [Slot.map, Array.map_setIfInBounds, map]
      | occupied old => rfl

theorem remove?_map (f : α → β) (slab : Slab α) (key : Nat) :
    (slab.map f).remove? key = (slab.remove? key).map (Prod.map f (map f)) := by
  rw [remove?, remove?, get?_map, Option.map_map, Option.map_map]
  congr 1
  funext value
  simp [map, Slot.map, Array.map_setIfInBounds]

theorem remove_map (f : α → β) (slab : Slab α) (key : Nat) :
    (slab.map f).remove key = Prod.map f (map f) <$> slab.remove key := by
  rw [remove, remove, remove?_map]
  cases slab.remove? key <;> rfl

theorem map_insert {α β : Type u} {f : α → β} {slab after : Slab α} {value : α}
    (inserted : slab.insert value = .ok (key, after)) :
    (slab.map f).insert (f value) = .ok (key, after.map f) := by
  rw [insert_map f slab value, inserted]
  rfl

theorem map_remove? {f : α → β} {after : Slab α}
    (removed : slab.remove? key = some (value, after)) :
    (slab.map f).remove? key = some (f value, after.map f) := by
  rw [remove?_map, removed]
  rfl

end Slab

end StreamMux
