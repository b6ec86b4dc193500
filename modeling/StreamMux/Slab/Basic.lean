import StreamMux.Fault

/-!
# Slab

A slab keeps values in numbered slots. A value keeps its key until it is
removed, and a vacated slot is used again, the last vacated one first: each
vacant slot holds the number of the one vacated before it, and the slab holds
the number of the last. The view of a slab is `get?`; the lemmas below say
what each operation does to it.
-/

namespace StreamMux

/-- One slot: a value, or a link to the slot that is free after this one. -/
inductive Slot (α : Type u) where
  | vacant (next : Nat)
  | occupied (value : α)
  deriving DecidableEq, Repr

def Slot.value? : Slot α → Option α
  | .vacant _ => none
  | .occupied value => some value

@[simp] theorem Slot.value?_vacant (next : Nat) : (Slot.vacant next : Slot α).value? = none := rfl

@[simp] theorem Slot.value?_occupied (value : α) : (Slot.occupied value).value? = some value := rfl

inductive SizeError where
  /-- More slots were asked for at set-up than a slab may start with. -/
  | capacityTooLarge
  /-- No array can have that many slots. -/
  | lengthExceeded
  deriving DecidableEq, Repr

/-- Values in numbered slots, with a free list threaded through the vacant ones. -/
structure Slab (α : Type u) where
  /-- The slots used since the slab was last cleared. -/
  slots : Array (Slot α) := #[]
  /-- The number of occupied slots. -/
  size : Nat := 0
  /-- The first free slot, or the number of slots when all are occupied. -/
  vacantKey : Nat := 0
  /-- The number of slots there is room for. -/
  capacity : Nat := 0
  deriving DecidableEq, Repr

namespace Slab

def maxInitialCapacity : Nat := 0x100000

/-- An array takes up fewer than `2 ^ 63` bytes. This many slots of `bytes` bytes fit into one. -/
def maxSlots (bytes : Nat) : Nat := 0x7fffffffffffffff / bytes

def empty : Slab α := {}

def withCapacity (capacity : Nat) : Except SizeError (Slab α) :=
  if capacity ≤ maxInitialCapacity then .ok { capacity } else .error .capacityTooLarge

def get? (slab : Slab α) (key : Nat) : Option α := slab.slots[key]?.bind Slot.value?

def contains (slab : Slab α) (key : Nat) : Bool := (slab.get? key).isSome

def isEmpty (slab : Slab α) : Bool := slab.size == 0

def toList (slab : Slab α) : List (Option α) := slab.slots.toList.map Slot.value?

/-- The value at `key`, which has to be occupied. -/
def fetch (slab : Slab α) (key : Nat) : Checked α :=
  match slab.get? key with
  | some value => .ok value
  | none => .error .invalidKey

def modify (slab : Slab α) (key : Nat) (f : α → α) : Checked (Slab α) := do
  let value ← slab.fetch key
  return { slab with slots := slab.slots.setIfInBounds key (.occupied (f value)) }

def set (slab : Slab α) (key : Nat) (value : α) : Checked (Slab α) :=
  slab.modify key fun _ => value

/-- Room is doubled when a slot is appended and none is left. -/
def grownCapacity (slab : Slab α) : Nat :=
  if slab.slots.size < slab.capacity then slab.capacity else max 1 (2 * slab.capacity)

/-- Puts a value into the first free slot, or into a new one at the end. -/
def insert (slab : Slab α) (value : α) : Checked (Nat × Slab α) :=
  let key := slab.vacantKey
  if key = slab.slots.size then
    .ok (key,
      { slots := slab.slots.push (.occupied value)
        size := slab.size + 1
        vacantKey := key + 1
        capacity := slab.grownCapacity })
  else
    match slab.slots[key]? with
    | some (.vacant next) =>
      .ok (key,
        { slab with
          slots := slab.slots.setIfInBounds key (.occupied value)
          size := slab.size + 1
          vacantKey := next })
    | _ => .error .brokenFreeList

/-- Vacates the slot `key`, which becomes the first free one; `none` if it was not occupied. -/
def remove? (slab : Slab α) (key : Nat) : Option (α × Slab α) :=
  (slab.get? key).map fun value =>
    (value,
      { slab with
        slots := slab.slots.setIfInBounds key (.vacant slab.vacantKey)
        size := slab.size - 1
        vacantKey := key })

def remove (slab : Slab α) (key : Nat) : Checked (α × Slab α) :=
  match slab.remove? key with
  | some result => .ok result
  | none => .error .invalidKey

/-- The slots needed for `additional` more values, in 64-bit arithmetic. -/
def slotsFor (slab : Slab α) (additional : UInt64) : Nat :=
  let vacant := slab.slots.size - slab.size
  if vacant < additional.toNat then
    (slab.slots.size + (additional.toNat - vacant)) % UInt64.size
  else
    slab.slots.size

/-- Makes room for `additional` more values, where an array can have `most` slots: by default as many
as it can have of 40 bytes, which is the size of a slot for a text. -/
def reserve (slab : Slab α) (additional : UInt64) (most : Nat := maxSlots 40) :
    Except SizeError (Slab α) :=
  let slots := slab.slotsFor additional
  if slots ≤ most then .ok { slab with capacity := max slab.capacity slots }
  else .error .lengthExceeded

/-- Drops every value and forgets every slot; the room stays. -/
def clear (slab : Slab α) : Slab α := { capacity := slab.capacity }

@[simp] theorem get?_empty (key : Nat) : (empty : Slab α).get? key = none := by
  simp [empty, get?]

@[simp] theorem get?_clear (slab : Slab α) (key : Nat) : slab.clear.get? key = none := by
  simp [clear, get?]

theorem get?_withCapacity {capacity : Nat} {slab : Slab α}
    (h : withCapacity capacity = .ok slab) (key : Nat) : slab.get? key = none := by
  unfold withCapacity at h
  split at h
  · cases h
    simp [get?]
  · cases h

theorem fetch_eq_ok_iff {slab : Slab α} {key : Nat} {value : α} :
    slab.fetch key = .ok value ↔ slab.get? key = some value := by
  unfold fetch
  split <;> simp_all

theorem fetch_eq_error_iff {slab : Slab α} {key : Nat} :
    slab.fetch key = .error .invalidKey ↔ slab.get? key = none := by
  unfold fetch
  split <;> simp_all

theorem lt_size_of_get? {slab : Slab α} {key : Nat} {value : α}
    (h : slab.get? key = some value) : key < slab.slots.size := by
  obtain ⟨slot, found, -⟩ := Option.bind_eq_some_iff.1 h
  exact (Array.getElem?_eq_some_iff.1 found).1

/-- A change through one key is seen at that key only. -/
theorem get?_modify {slab after : Slab α} {key : Nat} {f : α → α}
    (h : slab.modify key f = .ok after) (k : Nat) :
    after.get? k = if k = key then (slab.get? key).map f else slab.get? k := by
  unfold modify at h
  cases fetched : slab.fetch key with
  | error fault => rw [fetched] at h; cases h
  | ok value =>
    rw [fetched] at h
    cases h
    have found := fetch_eq_ok_iff.1 fetched
    have bound := lt_size_of_get? found
    rw [found]
    by_cases same : k = key
    · subst same
      simp [get?, bound]
    · simp [get?, same, Ne.symm same]

/-- A new value is seen at the key it was given, and no other key changes. -/
theorem get?_insert {slab after : Slab α} {key : Nat} {value : α}
    (h : slab.insert value = .ok (key, after)) (k : Nat) :
    after.get? k = if k = key then some value else slab.get? k := by
  unfold insert at h
  simp only at h
  split at h
  · rename_i fresh
    cases h
    by_cases same : k = slab.vacantKey
    · simp [get?, same, fresh]
    · simp [get?, Array.getElem?_push, same, ← fresh]
  · split at h
    · rename_i found
      cases h
      have bound := (Array.getElem?_eq_some_iff.1 found).1
      by_cases same : k = slab.vacantKey
      · subst same
        simp [get?, bound]
      · simp [get?, same, Ne.symm same]
    · cases h

/-- A removed value is the one that was at the key, and no other key changes. -/
theorem get?_remove? {slab after : Slab α} {key : Nat} {value : α}
    (h : slab.remove? key = some (value, after)) (k : Nat) :
    slab.get? key = some value ∧ after.get? k = if k = key then none else slab.get? k := by
  obtain ⟨found, present, pair⟩ := Option.map_eq_some_iff.1 h
  cases pair
  refine ⟨present, ?_⟩
  have bound := lt_size_of_get? present
  by_cases same : k = key
  · subst same
    simp [get?, bound]
  · simp [get?, same, Ne.symm same]

theorem remove?_eq_none_iff {slab : Slab α} {key : Nat} :
    slab.remove? key = none ↔ slab.get? key = none := Option.map_eq_none_iff

end Slab

end StreamMux
