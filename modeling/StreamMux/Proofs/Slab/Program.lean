import StreamMux.Proofs.Slab.FreeList

/-!
# Programs over one slab

A program inserts, removes, reads and overwrites the values of a slab, asks for room and clears
it. `Slab.step` carries out its operations on a slab. `Arena.step` carries them out on a plain
arena, a list of optional values beside a stack of the keys that were freed, which has neither
links nor room. Both refuse a request for more than `most` slots, whatever that number is.
-/

universe u

namespace StreamMux

variable {α : Type u}

namespace Slab

/-- What a program does with a slab. A value that is read may be overwritten by its image. -/
inductive Op (α : Type u) where
  | insert (value : α)
  | tryRemove (key : Nat)
  | remove (key : Nat)
  | get (key : Nat) (write : α → α)
  | index (key : Nat) (write : α → α)
  | contains (key : Nat)
  | vacantKey
  | size
  | isEmpty
  | reserve (additional : UInt64)
  | clear

/-- What a program sees of it: keys, values as they were before a write, and counts. -/
inductive Reply (α : Type u) where
  | inserted (key : Nat)
  | found (value : Option α)
  | read (value : α)
  | free (key : Nat)
  | counted (size : Nat)
  | answered (yes : Bool)
  | roomy (refusal : Option SizeError)
  | cleared

/-- Carries out an operation. A request for room that is refused leaves the slab as it was. -/
def step (slab : Slab α) (most : Nat) : Op α → Checked (Reply α × Slab α)
  | .insert value => do
    let (key, slab) ← slab.insert value
    return (.inserted key, slab)
  | .tryRemove key =>
    match slab.remove? key with
    | none => return (.found none, slab)
    | some (value, slab) => return (.found (some value), slab)
  | .remove key => do
    let (value, slab) ← slab.remove key
    return (.read value, slab)
  | .get key write =>
    match slab.get? key with
    | none => return (.found none, slab)
    | some value => return (.found (some value), ← slab.modify key write)
  | .index key write => do
    let value ← slab.fetch key
    return (.read value, ← slab.modify key write)
  | .contains key => return (.answered (slab.contains key), slab)
  | .vacantKey => return (.free slab.vacantKey, slab)
  | .size => return (.counted slab.size, slab)
  | .isEmpty => return (.answered slab.isEmpty, slab)
  | .reserve additional =>
    match slab.reserve additional most with
    | .ok slab => return (.roomy none, slab)
    | .error refusal => return (.roomy (some refusal), slab)
  | .clear => return (.cleared, slab.clear)

def run (slab : Slab α) (most : Nat) : List (Op α) → Checked (List (Reply α) × Slab α)
  | [] => return ([], slab)
  | op :: rest => do
    let (answer, slab) ← slab.step most op
    let (answers, slab) ← slab.run most rest
    return (answer :: answers, slab)

/-- What a program sees of its operations; a fault when one of them is fatal. -/
def answers (slab : Slab α) (most : Nat) (ops : List (Op α)) : Checked (List (Reply α)) :=
  Prod.fst <$> slab.run most ops

def Op.isReserve : Op α → Bool
  | .reserve _ => true
  | _ => false

def Reply.isRoom : Reply α → Bool
  | .roomy _ => true
  | _ => false

/-- The keys handed out since the slab was last cleared. -/
def Reply.use (keys : List Nat) : Reply α → List Nat
  | .inserted key => key :: keys
  | .cleared => []
  | _ => keys

/-- A slab that was just made, with or without room reserved. -/
inductive Fresh : Slab α → Prop where
  | empty : Fresh .empty
  | withCapacity {capacity : Nat} {slab : Slab α} (made : Slab.withCapacity capacity = .ok slab) :
    Fresh slab

theorem Fresh.exists_capacity {slab : Slab α} (fresh : slab.Fresh) :
    ∃ capacity, slab = { capacity } := by
  cases fresh with
  | empty => exact ⟨0, rfl⟩
  | withCapacity made =>
    rename_i capacity
    unfold Slab.withCapacity at made
    split at made
    · cases made
      exact ⟨capacity, rfl⟩
    · cases made

end Slab

/-- Optional values in a list, and the keys that were freed, the last one first. -/
structure Arena (α : Type u) where
  values : List (Option α) := []
  freed : List Nat := []

namespace Arena

def empty : Arena α := {}

def get? (arena : Arena α) (key : Nat) : Option α := arena.values[key]?.join

/-- The key on top of the stack, or the next one past the end. -/
def nextKey (arena : Arena α) : Nat := arena.freed.headD arena.values.length

def size (arena : Arena α) : Nat := arena.values.countP Option.isSome

def write (arena : Arena α) (key : Nat) (value : Option α) : Arena α :=
  { arena with values := arena.values.set key value }

def insert (arena : Arena α) (value : α) : Arena α :=
  match arena.freed with
  | [] => { values := arena.values ++ [some value], freed := [] }
  | key :: freed => { arena.write key (some value) with freed }

def free (arena : Arena α) (key : Nat) : Arena α :=
  { arena.write key none with freed := key :: arena.freed }

/-- The places that would be needed for `additional` more values, in 64-bit arithmetic. -/
def placesFor (arena : Arena α) (additional : UInt64) : Nat :=
  if arena.freed.length < additional.toNat then
    (arena.values.length + (additional.toNat - arena.freed.length)) % UInt64.size
  else
    arena.values.length

def refusal? (arena : Arena α) (additional : UInt64) (most : Nat) : Option SizeError :=
  if arena.placesFor additional ≤ most then none else some .lengthExceeded

def step (arena : Arena α) (most : Nat) : Slab.Op α → Checked (Slab.Reply α × Arena α)
  | .insert value => .ok (.inserted arena.nextKey, arena.insert value)
  | .tryRemove key =>
    match arena.get? key with
    | none => .ok (.found none, arena)
    | some value => .ok (.found (some value), arena.free key)
  | .remove key =>
    match arena.get? key with
    | none => .error .invalidKey
    | some value => .ok (.read value, arena.free key)
  | .get key write =>
    match arena.get? key with
    | none => .ok (.found none, arena)
    | some value => .ok (.found (some value), arena.write key (some (write value)))
  | .index key write =>
    match arena.get? key with
    | none => .error .invalidKey
    | some value => .ok (.read value, arena.write key (some (write value)))
  | .contains key => .ok (.answered (arena.get? key).isSome, arena)
  | .vacantKey => .ok (.free arena.nextKey, arena)
  | .size => .ok (.counted arena.size, arena)
  | .isEmpty => .ok (.answered (arena.size == 0), arena)
  | .reserve additional => .ok (.roomy (arena.refusal? additional most), arena)
  | .clear => .ok (.cleared, empty)

def run (arena : Arena α) (most : Nat) :
    List (Slab.Op α) → Checked (List (Slab.Reply α) × Arena α)
  | [] => return ([], arena)
  | op :: rest => do
    let (answer, arena) ← arena.step most op
    let (answers, arena) ← arena.run most rest
    return (answer :: answers, arena)

def answers (arena : Arena α) (most : Nat) (ops : List (Slab.Op α)) :
    Checked (List (Slab.Reply α)) :=
  Prod.fst <$> arena.run most ops

@[simp] theorem length_write (arena : Arena α) (key : Nat) (value : Option α) :
    (arena.write key value).values.length = arena.values.length :=
  List.length_set

@[simp] theorem length_free (arena : Arena α) (key : Nat) :
    (arena.free key).values.length = arena.values.length :=
  List.length_set

variable {arena next : Arena α} {op : Slab.Op α} {answer : Slab.Reply α} {most : Nat}

/-- A request for room is answered, and changes nothing. -/
theorem step_of_isReserve (arena : Arena α) (reserve : op.isReserve = true) :
    ∃ answer, arena.step most op = .ok (answer, arena) ∧ answer.isRoom = true := by
  cases op with
  | reserve additional => exact ⟨.roomy (arena.refusal? additional most), rfl, rfl⟩
  | _ => cases reserve

theorem isRoom_of_step (other : op.isReserve = false)
    (done : arena.step most op = .ok (answer, next)) : answer.isRoom = false := by
  cases op with
  | reserve additional => cases other
  | tryRemove key | remove key | get key write | index key write =>
    unfold step at done
    dsimp only at done
    split at done <;> cases done <;> rfl
  | _ =>
    cases done
    rfl

/-- Without its requests for room, a program has the same effect and sees the same otherwise. -/
theorem run_filter_isReserve (arena : Arena α) (ops : List (Slab.Op α)) :
    arena.run most (ops.filter (!·.isReserve)) =
      (fun result => (result.1.filter (!·.isRoom), result.2)) <$> arena.run most ops := by
  induction ops generalizing arena with
  | nil => rfl
  | cons op rest ih =>
    cases reserve : op.isReserve with
    | true =>
      obtain ⟨answer, done, room⟩ := step_of_isReserve arena reserve
      rw [List.filter_cons_of_neg (by simp [reserve]), ih, run, done, Checked.ok_bind]
      dsimp only
      cases arena.run most rest with
      | error fault => rfl
      | ok later => simp [room]
    | false =>
      rw [List.filter_cons_of_pos (by simp [reserve]), run, run]
      cases done : arena.step most op with
      | error fault => rfl
      | ok result =>
        obtain ⟨answer, next⟩ := result
        rw [Checked.ok_bind, Checked.ok_bind]
        dsimp only
        rw [ih]
        cases next.run most rest with
        | error fault => rfl
        | ok later => simp [isRoom_of_step reserve done]

end Arena

end StreamMux
