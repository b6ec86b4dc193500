/-!
# Faults

A fault is a broken structural rule: a key without a stream, a queue whose
links do not add up, an entry used twice. It ends the computation that meets
it. Refusals that a caller may act on are ordinary results and not faults.
-/

namespace StreamMux

/-- The structural rules that can be broken, one constructor each. -/
inductive Fault where
  /-- A key that designates no occupied slot was used. -/
  | invalidKey
  /-- A stream was inserted under an id that is bound. -/
  | idInUse
  /-- A vacant entry was filled after it had been filled or moved away. -/
  | entryConsumed
  /-- The last stream of a queue is linked to another one. -/
  | tailLinked
  /-- A stream before the last of its queue is linked to none. -/
  | linkMissing
  /-- A stream was pushed while linked in the same queue. -/
  | alreadyLinked
  /-- The chain of vacant slots leads to a slot that is not vacant. -/
  | brokenFreeList
  /-- A table has no row at the index asked for. -/
  | outOfRange
  /-- A walk along links took more steps than it was allowed. -/
  | unfinished
  deriving DecidableEq, Repr

def Fault.message : Fault → String
  | .invalidKey => "slab: invalid key"
  | .idInUse => "store: stream id already in use"
  | .entryConsumed => "store: vacant entry already consumed"
  | .tailLinked => "list: tail has a next link"
  | .linkMissing => "list: non-tail node has no next link"
  | .alreadyLinked => "list: stream already linked in this queue"
  | .brokenFreeList => "slab: free list leads to an occupied slot"
  | .outOfRange => "table: index out of range"
  | .unfinished => "list: walk exceeded its bound"

/-- The outcome of a computation that a fault may end. -/
abbrev Checked (α : Type u) := Except Fault α

namespace Checked

@[simp] theorem ok_bind (value : α) (next : α → Checked β) :
    (Except.ok value >>= next : Checked β) = next value := rfl

@[simp] theorem error_bind (fault : Fault) (next : α → Checked β) :
    (Except.error fault >>= next : Checked β) = .error fault := rfl

@[simp] theorem ok_map (value : α) (f : α → β) :
    (f <$> (Except.ok value : Checked α)) = .ok (f value) := rfl

@[simp] theorem error_map (fault : Fault) (f : α → β) :
    (f <$> (Except.error fault : Checked α)) = .error fault := rfl

@[simp] theorem pure_eq_ok (value : α) : (pure value : Checked α) = .ok value := rfl

@[simp] theorem throw_eq_error (fault : Fault) : (throw fault : Checked α) = .error fault := rfl

/-- A computation in two parts succeeds when both do. -/
theorem bind_eq_ok_iff {first : Checked α} {next : α → Checked β} {result : β} :
    (first >>= next) = .ok result ↔ ∃ value, first = .ok value ∧ next value = .ok result := by
  cases first with
  | error fault => simp
  | ok value => simp

/-- Computations in two parts correspond when their parts do. -/
theorem bind_eq_map_bind {f : α → α'} {g : β → β'} {first : Checked α}
    {first' : Checked α'} {next : α → Checked β} {next' : α' → Checked β'}
    (begun : first' = f <$> first) (ended : ∀ value, next' (f value) = g <$> next value) :
    (first' >>= next') = g <$> (first >>= next) := by
  rw [begun, map_bind, bind_map_left]
  exact bind_congr ended

/-- Loops correspond when their steps do. -/
theorem foldlM_eq_map_foldlM {f : α → α'} {step : α → β → Checked α} {step' : α' → β → Checked α'}
    (steps : ∀ value item, step' (f value) item = f <$> step value item) (items : List β)
    (start : α) : items.foldlM step' (f start) = f <$> items.foldlM step start := by
  induction items generalizing start with
  | nil => rfl
  | cons item rest ih => exact bind_eq_map_bind (steps start item) ih

end Checked

end StreamMux
