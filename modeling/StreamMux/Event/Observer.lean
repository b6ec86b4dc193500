import StreamMux.Event.Basic

/-!
# Observers

An observer counts the events it is shown and may write a line for each. What
it writes never depends on what it counted, nor the counts on whether it writes
(`Observer.counters_recordAll`).
-/

namespace StreamMux

/-- The number of events of each kind. The counts have no bound: counters of 64 bits hold them as
long as there are fewer than `2 ^ 64` events, and wrap around after that. -/
structure Counters where
  opened : Nat := 0
  queued : Nat := 0
  dispatched : Nat := 0
  filtered : Nat := 0
  closed : Nat := 0
  deriving DecidableEq, Repr

namespace Counters

/-- One more event of that kind; other codes are counted nowhere. -/
def add (counters : Counters) : EventKind → Counters
  | .opened => { counters with opened := counters.opened + 1 }
  | .queued => { counters with queued := counters.queued + 1 }
  | .dispatched => { counters with dispatched := counters.dispatched + 1 }
  | .filtered => { counters with filtered := counters.filtered + 1 }
  | .closed => { counters with closed := counters.closed + 1 }
  | .unrecognised _ => counters

def toList (counters : Counters) : List Nat :=
  [counters.opened, counters.queued, counters.dispatched, counters.filtered, counters.closed]

/-- An observer has counted each of the five kinds. -/
theorem foldl_add (counters : Counters) (events : List Event) :
    events.foldl (fun counters event => counters.add event.kind) counters =
      { opened := counters.opened + events.countP (·.kind == .opened)
        queued := counters.queued + events.countP (·.kind == .queued)
        dispatched := counters.dispatched + events.countP (·.kind == .dispatched)
        filtered := counters.filtered + events.countP (·.kind == .filtered)
        closed := counters.closed + events.countP (·.kind == .closed) } := by
  induction events generalizing counters with
  | nil => rfl
  | cons event rest ih =>
    rw [List.foldl_cons, ih]
    cases kind : event.kind <;> simp [add, kind, Nat.add_assoc, Nat.add_comm]

theorem toList_foldl_add (events : List Event) :
    (events.foldl (fun counters event => counters.add event.kind) ({} : Counters)).toList =
      EventKind.all.map fun kind => events.countP (·.kind == kind) := by
  rw [foldl_add]
  simp [toList, EventKind.all]

end Counters

structure Observer where
  writes : Bool
  counters : Counters := {}
  deriving DecidableEq, Repr

namespace Observer

def record (observer : Observer) (event : Event) : Observer × String :=
  ({ observer with counters := observer.counters.add event.kind },
    if observer.writes then event.line ++ "\n" else "")

def recordAll (observer : Observer) (events : List Event) : Observer × String :=
  events.foldl
    (fun (observer, text) event =>
      let (observer, written) := observer.record event
      (observer, text ++ written))
    (observer, "")

theorem recordAll_foldl (observer : Observer) (text : String) (events : List Event) :
    (events.foldl
      (fun (observer, text) event =>
        let (observer, written) := observer.record event
        (observer, text ++ written))
      (observer, text)).1 =
    { observer with counters := events.foldl (fun c e => c.add e.kind) observer.counters } := by
  induction events generalizing observer text with
  | nil => rfl
  | cons event rest ih => exact ih ..

/-- The counts are a tally of the kinds, whether the observer writes or not. -/
theorem counters_recordAll (observer : Observer) (events : List Event) :
    (observer.recordAll events).1.counters =
      events.foldl (fun counters event => counters.add event.kind) observer.counters := by
  rw [recordAll, recordAll_foldl]

end Observer

end StreamMux
