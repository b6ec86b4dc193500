import StreamMux.Proofs.Queue.OneKind

/-!
# Queues of different kinds do not interfere

In a program over queues of several kinds, an operation on a queue of one kind is the same operation
when only links of this kind are seen (`Queues.stepWithin_only`), and then the operations on all
other queues do nothing (`Queues.only_of_stepWithin`). So a program can be rid of its operations on
the queues of other kinds, and the rest of it does not notice (`Queues.runWithin_independent`).
-/

namespace StreamMux

namespace Queue

variable {ι σ : Type} {kinds : ι → QueueKind}

namespace Op

/-- The queue that an operation is about. An operation on the store is about none. -/
def queue? : Op ι σ → Option ι
  | .push i _ | .pop i | .drain i | .retain i _ _ | .look i => some i
  | .take source _ => some source
  | .insert _ _ | .remove _ => none

def concerns (kinds : ι → QueueKind) (kind : QueueKind) (op : Op ι σ) : Bool :=
  op.queue?.all (kinds · == kind)

/-- Queues are moved to queues of the same kind, and filters only read. -/
def Typed (kinds : ι → QueueKind) : Op ι σ → Prop
  | .take source target => kinds target = kinds source
  | .retain _ judge _ => OnlyReads judge
  | _ => True

def only (kind : QueueKind) : Op ι σ → Op ι σ
  | .insert id stream => .insert id (stream.only kind)
  | op => op

end Op

def Reply.only (kind : QueueKind) : Reply σ → Reply σ
  | .removed stream => .removed (stream.map (Stream.only kind))
  | reply => reply

end Queue

open Queue (Op Reply)

namespace Queues

variable {ι σ : Type} {kinds : ι → QueueKind} {kind : QueueKind} {queues after : Queues ι}
  {budget : Nat} {op : Op ι σ} {ops : List (Op ι σ)} {reply : Reply σ} {i : ι}

def only (kinds : ι → QueueKind) (kind : QueueKind) (queues : Queues ι) : Queues ι :=
  ⟨queues.store.only kind, fun i => if kinds i = kind then queues.queue i else .empty⟩

theorem queue_only (kinds : ι → QueueKind) (queues : Queues ι) (i : ι) :
    (queues.only kinds (kinds i)).queue i = queues.queue i := if_pos rfl

variable [DecidableEq ι]

/-- Carries out an operation; a filter may visit as many streams as `budget` says, however the
links lead. -/
def stepWithin (kinds : ι → QueueKind) (budget : Nat) (queues : Queues ι) :
    Op ι σ → Checked (Reply σ × Queues ι)
  | .retain i judge start => do
    let (queue, (last, calls), store) ← (queues.queue i).retain (kinds i) (Queue.recorded judge)
      (start, []) budget queues.store
    return (.judged last calls, ⟨store, Function.update queues.queue i queue⟩)
  | op => queues.step kinds op

def runWithin (kinds : ι → QueueKind) (budget : Nat) (queues : Queues ι) :
    List (Op ι σ) → Checked (List (Op ι σ × Reply σ) × Queues ι)
  | [] => return ([], queues)
  | op :: rest => do
    let (reply, queues) ← queues.stepWithin kinds budget op
    let (log, queues) ← queues.runWithin kinds budget rest
    return ((op, reply) :: log, queues)

theorem stepWithin_slotCount (kinds : ι → QueueKind) (queues : Queues ι) (op : Op ι σ) :
    queues.stepWithin kinds queues.store.slotCount op = queues.step kinds op := by
  cases op <;> rfl

/-- A queue of the kind is replaced in what is seen of the queues, too. -/
theorem only_update (store : Store) (queue : ι → Queue) (same : kinds i = kind) (new : Queue) :
    only kinds kind ⟨store, Function.update queue i new⟩ =
      ⟨store.only kind, Function.update (only kinds kind ⟨store, queue⟩).queue i new⟩ := by
  refine congrArg (Queues.mk (store.only kind)) (funext fun j => ?_)
  dsimp only [only]
  by_cases here : j = i
  · subst here
    rw [if_pos same, Function.update_self, Function.update_self]
  · rw [Function.update_of_ne here, Function.update_of_ne here]

/-- Seen through links of one kind, an operation on a queue of the kind or on the store is the same
operation. -/
theorem stepWithin_only (typed : op.Typed kinds) (concerns : op.concerns kinds kind = true) :
    (queues.only kinds kind).stepWithin kinds budget (op.only kind) =
      Prod.map (Reply.only kind) (only kinds kind) <$> queues.stepWithin kinds budget op := by
  -- The queue goes on from what the operation on it leaves.
  have goes (reply : Reply σ) (store : Store) {i : ι} (same : kinds i = kind) (new : Queue) :
      (pure (reply, ⟨store.only kind, Function.update (queues.only kinds kind).queue i new⟩) :
          Checked (Reply σ × Queues ι)) =
        pure (reply, only kinds kind ⟨store, Function.update queues.queue i new⟩) :=
    congrArg (fun queues => Except.ok (reply, queues)) (only_update store _ same new).symm
  cases op with
  | push i key =>
    obtain rfl : kinds i = kind := eq_of_beq concerns
    simp only [stepWithin, step, Op.only]
    rw [queue_only, map_bind, only, Queue.push_only, bind_map_left]
    exact bind_congr fun pushed => goes .done pushed.2 rfl pushed.1
  | pop i =>
    obtain rfl : kinds i = kind := eq_of_beq concerns
    simp only [stepWithin, step, Op.only]
    rw [queue_only, map_bind, only, Queue.pop_only, bind_map_left]
    exact bind_congr fun popped => goes (.popped popped.1) popped.2.2 rfl popped.2.1
  | drain i =>
    obtain rfl : kinds i = kind := eq_of_beq concerns
    simp only [stepWithin, step, Op.only]
    rw [queue_only, map_bind, only, Queue.drain_only, bind_map_left]
    exact bind_congr fun drained => goes (.drained drained.1) drained.2 rfl .empty
  | take source target =>
    obtain rfl : kinds source = kind := eq_of_beq concerns
    have same : kinds target = kinds source := typed
    simp only [stepWithin, step, Op.only, Queue.take]
    rw [queue_only]
    refine congrArg (fun queues => Except.ok (Reply.done, queues)) ?_
    rw [only_update _ _ same, only_update _ _ rfl]
    rfl
  | retain i judge start =>
    obtain rfl : kinds i = kind := eq_of_beq concerns
    have reads : Queue.OnlyReads judge := typed
    simp only [stepWithin, Op.only]
    rw [queue_only, map_bind, only, Queue.retain_only reads.recorded, bind_map_left]
    exact bind_congr fun kept => goes (.judged kept.2.1.1 kept.2.1.2) kept.2.2 rfl kept.1
  | look i =>
    obtain rfl : kinds i = kind := eq_of_beq concerns
    simp only [stepWithin, step, Op.only]
    rw [queue_only]
    rfl
  | insert id stream =>
    simp only [stepWithin, step, Op.only]
    rw [map_bind, only, Store.insert_only, bind_map_left]
    rfl
  | remove id =>
    simp only [stepWithin, step, Op.only]
    rw [map_bind, only, Store.remove_only, bind_map_left]
    rfl

/-- An operation on one queue changes nothing but links of the queue's kind and queues of this
kind. -/
theorem frame_of_stepWithin (typed : op.Typed kinds) (about : op.queue? = some i)
    (done : queues.stepWithin kinds budget op = .ok (reply, after)) :
    after.store.without (kinds i) = queues.store.without (kinds i) ∧
      ∀ j, kinds j ≠ kinds i → after.queue j = queues.queue j := by
  have others (queue : Queue) (j : ι) (apart : kinds j ≠ kinds i) :
      Function.update queues.queue i queue j = queues.queue j :=
    Function.update_of_ne (fun same => apart (congrArg kinds same)) ..
  cases op with
  | push k key =>
    cases about
    obtain ⟨⟨queue, store⟩, pushed, done⟩ := Checked.bind_eq_ok_iff.1 done
    cases done
    exact ⟨Queue.without_of_push pushed, others queue⟩
  | pop k =>
    cases about
    obtain ⟨⟨key, queue, store⟩, popped, done⟩ := Checked.bind_eq_ok_iff.1 done
    cases done
    exact ⟨Queue.without_of_pop popped, others queue⟩
  | drain k =>
    cases about
    obtain ⟨⟨keys, store⟩, drained, done⟩ := Checked.bind_eq_ok_iff.1 done
    cases done
    exact ⟨Queue.without_of_drainWithin drained, others .empty⟩
  | take source target =>
    cases about
    have same : kinds target = kinds i := typed
    cases done
    refine ⟨rfl, fun j apart => ?_⟩
    have elsewhere : j ≠ target := by
      rintro rfl
      exact apart same
    dsimp only
    rw [Function.update_of_ne elsewhere]
    exact others .empty j apart
  | retain k judge start =>
    cases about
    have reads : Queue.OnlyReads judge := typed
    obtain ⟨⟨queue, ⟨last, calls⟩, store⟩, passed, done⟩ := Checked.bind_eq_ok_iff.1 done
    cases done
    exact ⟨Queue.without_of_retain reads.recorded passed, others queue⟩
  | look k =>
    cases done
    exact ⟨rfl, fun _ _ => rfl⟩
  | insert id stream => cases about
  | remove id => cases about

/-- An operation on a queue of another kind does not show. -/
theorem only_of_stepWithin (typed : op.Typed kinds) (concerns : op.concerns kinds kind = false)
    (done : queues.stepWithin kinds budget op = .ok (reply, after)) :
    after.only kinds kind = queues.only kinds kind := by
  obtain ⟨i, about, apart⟩ : ∃ i, op.queue? = some i ∧ kinds i ≠ kind := by
    unfold Op.concerns at concerns
    cases about : op.queue? with
    | none =>
      rw [about] at concerns
      cases concerns
    | some i =>
      rw [about] at concerns
      exact ⟨i, rfl, fun same => by simp [same] at concerns⟩
  obtain ⟨links, others⟩ := frame_of_stepWithin typed about done
  rw [only, only, Store.only_of_without apart links]
  refine congrArg (Queues.mk (queues.store.only kind)) (funext fun j => ?_)
  split
  · rename_i same
    exact others j fun here => apart (here.symm.trans same)
  · rfl

/-- An operation on a queue answers no stream. -/
theorem reply_only_of_stepWithin (about : op.queue? ≠ none)
    (done : queues.stepWithin kinds budget op = .ok (reply, after)) : reply.only kind = reply := by
  cases op with
  | push i key | pop i | drain i | retain i judge start =>
    obtain ⟨result, -, done⟩ := Checked.bind_eq_ok_iff.1 done
    cases done
    rfl
  | take source target | look i =>
    cases done
    rfl
  | insert id stream | remove id => exact absurd rfl about

/-- What is answered to operations that are about a queue of the kind is the same, and what is
answered to others but for links of other kinds in a stream that was removed. -/
def SameAnswer (kind : QueueKind) (entry entry' : Op ι σ × Reply σ) : Prop :=
  entry'.1 = entry.1 ∧ entry'.2.only kind = entry.2.only kind ∧
    (entry.1.queue? ≠ none → entry'.2 = entry.2)

/-- Queues with the same links of one kind answer the same to what concerns this kind. -/
theorem stepWithin_same {queues' : Queues ι} (typed : op.Typed kinds)
    (concerns : op.concerns kinds kind = true)
    (same : queues'.only kinds kind = queues.only kinds kind)
    (done : queues.stepWithin kinds budget op = .ok (reply, after)) :
    ∃ reply' after', queues'.stepWithin kinds budget op = .ok (reply', after') ∧
      after'.only kinds kind = after.only kinds kind ∧
      SameAnswer kind (op, reply) (op, reply') := by
  have here : (queues.only kinds kind).stepWithin kinds budget (op.only kind) = _ :=
    stepWithin_only typed concerns
  have there : (queues'.only kinds kind).stepWithin kinds budget (op.only kind) = _ :=
    stepWithin_only typed concerns
  rw [same, here, done] at there
  cases done' : queues'.stepWithin kinds budget op with
  | error fault =>
    rw [done'] at there
    cases there
  | ok result =>
    obtain ⟨reply', after'⟩ := result
    rw [done'] at there
    obtain ⟨answer, state⟩ := Prod.mk.inj (Except.ok.inj there)
    refine ⟨reply', after', rfl, state.symm, rfl, answer.symm, fun about => ?_⟩
    dsimp only
    rw [← reply_only_of_stepWithin about done', ← reply_only_of_stepWithin about done]
    exact answer.symm

/-- Queues with the same links of one kind go through what concerns this kind alike, whether or not
the operations on other queues are carried out. -/
theorem runWithin_filter {queues' : Queues ι} {log : List (Op ι σ × Reply σ)}
    (typed : ∀ op ∈ ops, op.Typed kinds)
    (same : queues'.only kinds kind = queues.only kinds kind)
    (ran : queues.runWithin kinds budget ops = .ok (log, after)) :
    ∃ log' after', queues'.runWithin kinds budget (ops.filter (Op.concerns kinds kind)) =
        .ok (log', after') ∧
      after'.only kinds kind = after.only kinds kind ∧
      List.Forall₂ (SameAnswer kind) (log.filter (·.1.concerns kinds kind)) log' := by
  induction ops generalizing queues queues' log with
  | nil =>
    cases ran
    exact ⟨[], queues', rfl, same, .nil⟩
  | cons op rest ih =>
    obtain ⟨⟨reply, middle⟩, done, ran⟩ := Checked.bind_eq_ok_iff.1 ran
    obtain ⟨⟨others, last⟩, later, ran⟩ := Checked.bind_eq_ok_iff.1 ran
    cases ran
    have first := typed op List.mem_cons_self
    have remaining : ∀ op ∈ rest, op.Typed kinds := fun op member =>
      typed op (List.mem_cons_of_mem _ member)
    cases concerns : op.concerns kinds kind with
    | false =>
      have unseen := only_of_stepWithin first concerns done
      simp only [List.filter_cons, concerns, Bool.false_eq_true, if_false]
      exact ih remaining (same.trans unseen.symm) later
    | true =>
      obtain ⟨reply', middle', done', same', answer⟩ := stepWithin_same first concerns same done
      obtain ⟨log', after', ran', same'', answers⟩ := ih remaining same' later
      simp only [List.filter_cons, concerns, if_true]
      refine ⟨(op, reply') :: log', after', ?_, same'', .cons answer answers⟩
      simp [runWithin, done', ran']

/-- Of two runs, where the second is rid of the operations on the queues of other kinds: to what is
left the answers are the same, and the runs leave the same links of the kind, the same queues of the
kind and, but for links, the same streams. -/
structure Alike (kinds : ι → QueueKind) (kind : QueueKind) (log : List (Op ι σ × Reply σ))
    (after : Queues ι) (log' : List (Op ι σ × Reply σ)) (after' : Queues ι) : Prop where
  answers : List.Forall₂ (SameAnswer kind) (log.filter (·.1.concerns kinds kind)) log'
  links : ∀ key, after'.store.link? kind key = after.store.link? kind key
  streams : after'.store.unlinked = after.store.unlinked
  queues : ∀ i, kinds i = kind → after'.queue i = after.queue i

/-- Wherever it is carried out, an operation changes nothing in the store but links of one kind, and
no queue of another kind. -/
def ChangesOnly (kinds : ι → QueueKind) (budget : Nat) (kind : QueueKind) (op : Op ι σ) : Prop :=
  ∀ {before after : Queues ι} {reply}, before.stepWithin kinds budget op = .ok (reply, after) →
    after.store.without kind = before.store.without kind ∧
      ∀ j, kinds j ≠ kind → after.queue j = before.queue j

/-- Whatever the links are, a run that meets no fault meets none without its operations on the
queues of other kinds, and what is left of it does not notice. Each operation on a queue changes
links of the queue's kind only. -/
theorem runWithin_independent {log : List (Op ι σ × Reply σ)} (typed : ∀ op ∈ ops, op.Typed kinds)
    (ran : queues.runWithin kinds budget ops = .ok (log, after)) :
    (∀ kind, ∃ log' after',
      queues.runWithin kinds budget (ops.filter (Op.concerns kinds kind)) = .ok (log', after') ∧
        Alike kinds kind log after log' after') ∧
      ∀ op ∈ ops, ∀ i, op.queue? = some i → ChangesOnly kinds budget (kinds i) op := by
  refine ⟨fun kind => ?_, fun op member i about before next reply done =>
    frame_of_stepWithin (typed op member) about done⟩
  obtain ⟨log', after', ran', same, answers⟩ := runWithin_filter typed rfl ran
  have store : after'.store.only kind = after.store.only kind := congrArg Queues.store same
  refine ⟨log', after', ran', answers, fun key => ?_, ?_, fun i here => ?_⟩
  · rw [← Store.link?_only, store, Store.link?_only]
  · rw [← Store.unlinked_only kind, store, Store.unlinked_only]
  · subst here
    rw [← queue_only, same, queue_only]

/-- Three streams, of which two are linked for resets in a circle that no queue leads to. -/
def entangled : Queues (QueueKind × Bool) where
  store := { slab :=
    { slots := #[.occupied ({} : Stream), .occupied (({} : Stream).setNext .reset (some 2)),
        .occupied (({} : Stream).setNext .reset (some 1))]
      size := 3
      vacantKey := 3
      capacity := 4 } }
  queue _ := .empty

/-- Two streams wait to send, and for their windows the other way round. One is dropped from the
queue for sending, which has moved, and a stream that comes in the meantime waits for a reset. -/
def mixed : List (Op (QueueKind × Bool) Nat) :=
  [.push (.send, false) 1, .push (.windowUpdate, false) 0, .push (.send, false) 0,
    .insert (.ofRaw 5) {}, .push (.windowUpdate, false) 1, .push (.reset, true) 3,
    .push (.reset, true) 0, .take (.send, false) (.send, true),
    .retain (.send, true) (fun asked key stream => ⟨key != 1, stream, asked + 1⟩) 0,
    .pop (.windowUpdate, false), .pop (.reset, true), .remove (.ofRaw 5), .drain (.send, true)]

theorem runWithin_independent_entangled :
    (∀ op ∈ mixed, op.Typed Prod.fst) ∧
      ∃ log after, entangled.runWithin Prod.fst 4 mixed = .ok (log, after) ∧
        (∀ kind, ∃ log' after',
          entangled.runWithin Prod.fst 4 (mixed.filter (Op.concerns Prod.fst kind)) =
              .ok (log', after') ∧
            Alike Prod.fst kind log after log' after') ∧
        ∀ op ∈ mixed, ∀ i, op.queue? = some i → ChangesOnly Prod.fst 4 i.1 op := by
  have reads : Queue.OnlyReads fun (asked key : Nat) (stream : Stream) =>
      (⟨key != 1, stream, asked + 1⟩ : Queue.Verdict Nat) :=
    ⟨fun _ _ _ _ => rfl, fun _ _ _ => rfl⟩
  have typed : ∀ op ∈ mixed, op.Typed Prod.fst := by
    simp [mixed, Op.Typed, reads]
  exact ⟨typed, _, _, rfl, runWithin_independent typed rfl⟩

end Queues

end StreamMux
