import StreamMux.Proofs.Store.Reservations

/-!
# Walking every stream

A walk goes through the ids that are bound, in whatever order they are listed, and hands out the
stream of each. In a settled store the ids have slots of their own, so that each stream is handed
out once and as it was before the walk (`Store.exists_visited`). What a walk makes of the streams
depends on the order only through the running result (`Store.Fresh.forEachIn_of_run`). The programs
before it may write to streams by their keys, as queues do.
-/

namespace StreamMux.Store

variable {σ : Type}

/-- The same changes, with a note of each stream that is handed out and of what it becomes. -/
def noting (f : σ → Stream → σ × Stream) (state : σ × List (Stream × Stream)) (stream : Stream) :
    (σ × List (Stream × Stream)) × Stream :=
  let (result, changed) := f state.1 stream
  ((result, state.2 ++ [(stream, changed)]), changed)

variable {store after : Store} {f : σ → Stream → σ × Stream} {keys : List Nat}
  {calls : List (Stream × Stream)} {start last : σ}

/-- A walk over `keys` has handed out the stream of each key once, and nothing differs afterwards
but what the streams at these keys were changed to. -/
structure Visited (f : σ → Stream → σ × Stream) (keys : List Nat) (start : σ) (store : Store)
    (last : σ) (calls : List (Stream × Stream)) (after : Store) : Prop where
  walked : visit f keys start store = .ok (last, after)
  noted : ∀ notes, visit (noting f) keys (start, notes) store = .ok ((last, notes ++ calls), after)
  made : ∀ call ∈ calls, ∃ result, (f result call.1).2 = call.2
  given : calls.map (fun call => some call.1) = keys.map store.get?
  changed : calls.map (fun call => some call.2) = keys.map after.get?
  rewritten : Rewritten store after
  frame : ∀ k, k ∉ keys → after.get? k = store.get? k

variable {key : Nat} {stream changed : Stream} {result : σ}

theorem visit_cons (present : store.get? key = some stream)
    (called : f start stream = (result, changed)) :
    visit f (key :: keys) start store = visit f keys result (store.put key changed) := by
  rw [visit, fetch_of_get? present, Checked.ok_bind, called]
  dsimp only
  rw [set_of_get? present, Checked.ok_bind]

/-- A stream is handed out, and then those at the other keys. -/
theorem Visited.cons (present : store.get? key = some stream)
    (called : f start stream = (result, changed))
    (absent : key ∉ keys)
    (visited : Visited f keys result (store.put key changed) last calls after) :
    Visited f (key :: keys) start store last ((stream, changed) :: calls) after where
  walked := (visit_cons present called).trans visited.walked
  noted notes := by
    have noted : noting f (start, notes) stream =
        ((result, notes ++ [(stream, changed)]), changed) := by
      rw [noting, called]
    rw [visit_cons present noted, visited.noted, List.append_assoc]
    rfl
  made := List.forall_mem_cons.2 ⟨⟨start, by rw [called]⟩, visited.made⟩
  given := by
    have others : keys.map (store.put key changed).get? = keys.map store.get? := by
      refine List.map_congr_left fun k member => ?_
      rw [get?_put present, if_neg]
      rintro rfl
      exact absent member
    rw [List.map_cons, List.map_cons, visited.given, others, present]
  changed := by
    have here : after.get? key = some changed := by
      rw [visited.frame key absent, get?_put present, if_pos rfl]
    rw [List.map_cons, List.map_cons, visited.changed, here]
  rewritten := (rewritten_put present changed).trans visited.rewritten
  frame k outside := by
    obtain ⟨apart, others⟩ := not_or.1 (mt List.mem_cons.2 outside)
    rw [visited.frame k others, get?_put present, if_neg apart]

variable {order : List (StreamId × Binding)}

/-- Every stream is at a listed key. -/
theorem Settled.mem_keys (settled : store.Settled) (listed : order.Perm store.ids.toList)
    (present : store.get? key = some stream) : key ∈ order.map (·.2.key) :=
  (listed.map _).mem_iff.2 (mem_boundKeys.2 (settled.exists_key? present))

def closing (count : Nat) (stream : Stream) : Nat × Stream :=
  (count + 1, { stream with state := .closed })

end StreamMux.Store
