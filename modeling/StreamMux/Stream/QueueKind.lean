/-!
# The queues of a connection

A connection keeps three queues of streams, one for each kind of work that a
stream can wait for. What there is once for every queue (a flag, a link, the
queue itself) is a `PerQueue`.
-/

namespace StreamMux

inductive QueueKind where
  /-- Data or headers are ready to be written. -/
  | send
  /-- The peer is owed a reset. -/
  | reset
  /-- The receive window has to be advertised. -/
  | windowUpdate
  deriving DecidableEq, Repr

def QueueKind.label : QueueKind → String
  | .send => "send"
  | .reset => "reset"
  | .windowUpdate => "window_update"

structure PerQueue (α : Type u) where
  send : α
  reset : α
  windowUpdate : α
  deriving DecidableEq, Repr

namespace PerQueue

def replicate (value : α) : PerQueue α := ⟨value, value, value⟩

def get (values : PerQueue α) : QueueKind → α
  | .send => values.send
  | .reset => values.reset
  | .windowUpdate => values.windowUpdate

def set (values : PerQueue α) (kind : QueueKind) (value : α) : PerQueue α :=
  match kind with
  | .send => { values with send := value }
  | .reset => { values with reset := value }
  | .windowUpdate => { values with windowUpdate := value }

/-- The values in the order send, reset, window update. -/
def toList (values : PerQueue α) : List α := [values.send, values.reset, values.windowUpdate]

@[simp] theorem get_replicate (value : α) (kind : QueueKind) :
    (replicate value).get kind = value := by
  cases kind <;> rfl

theorem get_set (values : PerQueue α) (kind other : QueueKind) (value : α) :
    (values.set kind value).get other = if other = kind then value else values.get other := by
  cases kind <;> cases other <;> rfl

@[simp] theorem get_set_self (values : PerQueue α) (kind : QueueKind) (value : α) :
    (values.set kind value).get kind = value := by
  simp [get_set]

@[simp] theorem set_get_self (values : PerQueue α) (kind : QueueKind) :
    values.set kind (values.get kind) = values := by
  cases kind <;> rfl

@[simp] theorem set_set (values : PerQueue α) (kind : QueueKind) (first second : α) :
    (values.set kind first).set kind second = values.set kind second := by
  cases kind <;> rfl

@[ext] theorem ext_get {a b : PerQueue α} (h : ∀ kind, a.get kind = b.get kind) : a = b := by
  cases a; cases b
  have send := h .send
  have reset := h .reset
  have windowUpdate := h .windowUpdate
  simp_all [get]

end PerQueue

end StreamMux
