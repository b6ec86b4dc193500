import Mathlib.Logic.Function.Basic
import StreamMux.Proofs.Queue.Filter

/-!
# Programs over the queues of one store

A program pushes, pops, drains, moves and filters any number of queues of one store, and
puts streams into the store and takes them out. `Queues` carries out its operations on
links, `Lines` on plain lists of keys. `Lines.Allowed` is the discipline that a program
keeps: it pushes streams that are in no queue of the kind, it moves a queue to an empty
one or to itself, its filters are blind to links, and it removes streams that are in no queue.
-/

namespace StreamMux

namespace Queue

inductive Op (ι σ : Type) where
  | push (queue : ι) (key : Nat)
  | pop (queue : ι)
  | drain (queue : ι)
  | take (source target : ι)
  | retain (queue : ι) (judge : σ → Nat → Stream → Verdict σ) (start : σ)
  | look (queue : ι)
  | insert (id : StreamId) (stream : Stream)
  | remove (id : StreamId)

inductive Reply (σ : Type) where
  | done
  | popped (key : Option Nat)
  | drained (keys : List Nat)
  | judged (last : σ) (calls : List Nat)
  | ends (head tail : Option Nat) (isEmpty : Bool)
  | inserted (key : Nat)
  | removed (stream : Option Stream)

/-- The same decisions, with the keys that they were asked about in order. -/
def recorded (judge : σ → Nat → Stream → Verdict σ) (state : σ × List Nat) (key : Nat)
    (stream : Stream) : Verdict (σ × List Nat) :=
  let verdict := judge state.1 key stream
  ⟨verdict.keep, verdict.stream, (verdict.state, state.2 ++ [key])⟩

/-- The decisions neither depend on links nor change them. -/
def BlindToLinks (judge : σ → Nat → Stream → Verdict σ) : Prop :=
  ∀ state key stream links, judge state key { stream with links } =
    { judge state key stream with stream := { (judge state key stream).stream with links } }

end Queue

open Queue (Op Reply)

structure Queues (ι : Type) where
  store : Store
  queue : ι → Queue

structure Lines (ι : Type) where
  store : Store
  line : ι → List Nat

variable {ι σ : Type} [DecidableEq ι]

/-- Carries out an operation; `kind` tells which links each queue uses. -/
def Queues.step (kind : ι → QueueKind) (queues : Queues ι) :
    Op ι σ → Checked (Reply σ × Queues ι)
  | .push i key => do
    let (queue, store) ← (queues.queue i).push (kind i) key queues.store
    return (.done, ⟨store, Function.update queues.queue i queue⟩)
  | .pop i => do
    let (key, queue, store) ← (queues.queue i).pop (kind i) queues.store
    return (.popped key, ⟨store, Function.update queues.queue i queue⟩)
  | .drain i => do
    let (keys, store) ← (queues.queue i).drain (kind i) queues.store
    return (.drained keys, ⟨store, Function.update queues.queue i .empty⟩)
  | .take source target =>
    let (taken, left) := (queues.queue source).take
    return (.done,
      ⟨queues.store, Function.update (Function.update queues.queue source left) target taken⟩)
  | .retain i judge start => do
    let (queue, (last, calls), store) ← (queues.queue i).retain (kind i) (Queue.recorded judge)
      (start, []) queues.store.slotCount queues.store
    return (.judged last calls, ⟨store, Function.update queues.queue i queue⟩)
  | .look i =>
    let queue := queues.queue i
    return (.ends queue.head? queue.tail? queue.isEmpty, queues)
  | .insert id stream => do
    let (key, store) ← queues.store.insert id stream
    return (.inserted key, ⟨store, queues.queue⟩)
  | .remove id => do
    let (removed, store) ← queues.store.remove id
    return (.removed removed, ⟨store, queues.queue⟩)

def Queues.run (kind : ι → QueueKind) (queues : Queues ι) :
    List (Op ι σ) → Checked (List (Reply σ))
  | [] => return []
  | op :: rest => do
    let (answer, queues) ← queues.step kind op
    return answer :: (← queues.run kind rest)

namespace Lines

def step (lines : Lines ι) : Op ι σ → Checked (Reply σ × Lines ι)
  | .push i key =>
    return (.done, ⟨lines.store, Function.update lines.line i (lines.line i ++ [key])⟩)
  | .pop i =>
    return (.popped (lines.line i).head?,
      ⟨lines.store, Function.update lines.line i (lines.line i).tail⟩)
  | .drain i => return (.drained (lines.line i), ⟨lines.store, Function.update lines.line i []⟩)
  | .take source target =>
    return (.done, ⟨lines.store,
      Function.update (Function.update lines.line source []) target (lines.line source)⟩)
  | .retain i judge start => do
    let (kept, (last, calls), store) ←
      Queue.judgeAll (Queue.recorded judge) (lines.line i) (start, []) lines.store
    return (.judged last calls, ⟨store, Function.update lines.line i kept⟩)
  | .look i =>
    let line := lines.line i
    return (.ends line.head? line.getLast? line.isEmpty, lines)
  | .insert id stream => do
    let (key, store) ← lines.store.insert id stream
    return (.inserted key, ⟨store, lines.line⟩)
  | .remove id => do
    let (removed, store) ← lines.store.remove id
    return (.removed removed, ⟨store, lines.line⟩)

def run (lines : Lines ι) : List (Op ι σ) → Checked (List (Reply σ))
  | [] => return []
  | op :: rest => do
    let (answer, lines) ← lines.step op
    return answer :: (← lines.run rest)

/-- A program that keeps the discipline may do this now. -/
def Permits (kind : ι → QueueKind) (lines : Lines ι) : Op ι σ → Prop
  | .push i key =>
    (∃ stream, lines.store.get? key = some stream) ∧ ∀ j, kind j = kind i → key ∉ lines.line j
  | .take source target =>
    kind target = kind source ∧ (target = source ∨ lines.line target = [])
  | .retain _ judge _ => Queue.BlindToLinks judge
  | .insert _ stream => stream.links = .replicate none
  | .remove id => ∀ key, lines.store.key? id = some key → ∀ i, key ∉ lines.line i
  | .pop _ | .drain _ | .look _ => True

def Allowed (kind : ι → QueueKind) (lines : Lines ι) : List (Op ι σ) → Prop
  | [] => True
  | op :: rest => lines.Permits kind op ∧
    match lines.step op with
    | .ok (_, lines) => lines.Allowed kind rest
    | .error _ => True

/-- At some point a program inserts a stream under an id that is bound. -/
def Clashes (lines : Lines ι) : List (Op ι σ) → Prop
  | [] => False
  | op :: rest => (∃ id stream, op = .insert id stream ∧ lines.store.contains id = true) ∨
    match lines.step op with
    | .ok (_, lines) => lines.Clashes rest
    | .error _ => False

end Lines

end StreamMux
