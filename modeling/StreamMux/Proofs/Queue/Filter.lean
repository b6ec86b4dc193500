import StreamMux.Proofs.Queue.Operations
import StreamMux.Queue.Retain

/-!
# Filtering as a pass over a plain line

Filtering a queue does what one pass over its line of keys does (`judgeAll`): each
stream is judged once, in order, and the line of the streams that stay is what the
queue holds afterwards (`Queue.Holds.retain`). The proof follows the pass along the
links with `Queue.Pass`, whose two chains are the line kept so far and the line that
is still to be judged.
-/

namespace StreamMux.Queue

/-- One pass over a plain line: each stream is judged once, in order, and left as it was
judged. The answer is the line of the streams that stay. -/
def judgeAll (judge : σ → Nat → Stream → Verdict σ) :
    List Nat → σ → Store → Checked (List Nat × σ × Store)
  | [], state, store => return ([], state, store)
  | key :: rest, state, store => do
    let verdict := judge state key (← store.fetch key)
    let store ← store.set key verdict.stream
    let (kept, state, store) ← judgeAll judge rest verdict.state store
    return (if verdict.keep then key :: kept else kept, state, store)

/-- The pass over a line judges its first stream, and goes on with the rest. -/
theorem judgeAll_cons {judge : σ → Nat → Stream → Verdict σ} {key : Nat} {rest more : List Nat}
    {state last : σ} {store after : Store} {stream : Stream} {verdict : Verdict σ}
    (present : store.get? key = some stream) (decided : judge state key stream = verdict)
    (remaining : judgeAll judge rest verdict.state (store.put key verdict.stream) =
      .ok (more, last, after)) :
    judgeAll judge (key :: rest) state store =
      .ok (if verdict.keep then key :: more else more, last, after) := by
  rw [judgeAll]
  simp [Store.fetch_of_get? present, Store.set_of_get? present, decided, remaining]

def KeepsLink (kind : QueueKind) (judge : σ → Nat → Stream → Verdict σ) : Prop :=
  ∀ state key stream, (judge state key stream).stream.next kind = stream.next kind

/-- The queue holds what stayed of the line `keys`, the streams that left have no link,
and nothing differs from the judged store but links of the line. -/
structure Filtered (kind : QueueKind) (keys kept : List Nat) (judged after : Store)
    (queue : Queue) : Prop where
  held : queue.Holds kind after kept
  relinked : judged.Relinked kind keys after
  cleared : ∀ k ∈ keys, k ∉ kept → after.link? kind k = some none

/-- A pass along the links of the line `keys`: `kept` are the streams that stay so far
and `rest` those still to be judged. `plain` is the store with the links untouched. -/
structure Pass (kind : QueueKind) (keys : List Nat) (plain store : Store) (first : Option Nat)
    (kept : List Nat) (joint resume : Option Nat) (rest : List Nat) : Prop where
  front : Chain (store.link? kind) first kept joint
  back : Chain (store.link? kind) resume rest none
  distinct : (kept ++ rest).Nodup
  within : kept ++ rest ⊆ keys
  relinked : plain.Relinked kind keys store
  untouched : ∀ k ∈ rest, store.get? k = plain.get? k
  cleared : ∀ k ∈ keys, k ∉ kept ++ rest → store.link? kind k = some none

namespace Pass

variable {kind : QueueKind} {keys kept rest : List Nat} {plain store : Store}
  {first joint resume : Option Nat} {key : Nat} {stream : Stream}

/-- Judging a stream changes nothing that the pass is about. -/
theorem judged (pass : Pass kind keys plain store first kept joint resume (key :: rest))
    (present : store.get? key = some stream) {new : Stream}
    (same : new.next kind = stream.next kind) :
    Pass kind keys (plain.put key new) (store.put key new) first kept joint resume
      (key :: rest) := by
  have presentPlain : plain.get? key = some stream := by
    rw [← pass.untouched key List.mem_cons_self, present]
  have links (k : Nat) : (store.put key new).link? kind k = store.link? kind k := by
    rw [Store.link?_put present]
    split
    · rename_i here
      rw [here, Store.link?_of_get? present, same]
    · rfl
  refine ⟨pass.front.congr fun k _ => links k, pass.back.congr fun k _ => links k,
    pass.distinct, pass.within, ⟨pass.relinked.ids, pass.relinked.stats, ?_, ?_⟩, ?_, ?_⟩
  · have streams := pass.relinked.streams
    simp only [Store.put, Slab.map_put]
    rw [streams]
  · intro k outside
    rw [Store.get?_put present, Store.get?_put presentPlain, pass.relinked.frame k outside]
  · intro k member
    rw [Store.get?_put present, Store.get?_put presentPlain, pass.untouched k member]
  · intro k member outside
    rw [links, pass.cleared k member outside]

/-- A stream that stays joins the line kept so far. -/
theorem keep {next : Option Nat}
    (pass : Pass kind keys plain store first kept (some key) (some key) (key :: rest))
    (linked : store.link? kind key = some next) :
    Pass kind keys plain store first (kept ++ [key]) next next rest := by
  have together : kept ++ [key] ++ rest = kept ++ key :: rest := by simp
  obtain ⟨-, next', linked', following⟩ := pass.back
  rw [linked] at linked'
  cases linked'
  refine ⟨Chain.append_iff.2 ⟨some key, pass.front, rfl, next, linked, rfl⟩, following,
    together ▸ pass.distinct, together ▸ pass.within, pass.relinked, ?_, together ▸ pass.cleared⟩
  exact fun k member => pass.untouched k (List.mem_cons_of_mem _ member)

/-- A stream that leaves loses its link. -/
theorem unlink (pass : Pass kind keys plain store first kept joint (some key) (key :: rest))
    (present : store.get? key = some stream) :
    Pass kind keys plain (store.put key (stream.setNext kind none)) first kept joint
      (stream.next kind) rest := by
  obtain ⟨-, next, linked, following⟩ := pass.back
  have next_eq : stream.next kind = next :=
    Option.some.inj ((Store.link?_of_get? present kind).symm.trans linked)
  have links := Store.link?_put_setNext present kind none
  have distinct := List.nodup_append.1 pass.distinct
  have outside : key ∉ rest := (List.nodup_cons.1 distinct.2.1).1
  have sub : kept ++ rest ⊆ kept ++ key :: rest := by
    intro k member
    rcases List.mem_append.1 member with left | right
    · exact List.mem_append_left _ left
    · exact List.mem_append_right _ (List.mem_cons_of_mem _ right)
  have mine : key ∈ keys := pass.within (List.mem_append_right _ List.mem_cons_self)
  refine ⟨?_, ?_, ?_, fun _ member => pass.within (sub member), ?_, ?_, ?_⟩
  · refine pass.front.congr fun k member => ?_
    rw [links, if_neg (distinct.2.2 k member key List.mem_cons_self)]
  · refine next_eq ▸ following.congr fun k member => ?_
    rw [links, if_neg fun same : k = key => outside (same ▸ member)]
  · exact pass.distinct.sublist ((List.sublist_cons_self key rest).append_left kept)
  · exact (pass.relinked.trans (Store.relinked_put present none)).mono (by simp [mine])
  · intro k member
    rw [Store.get?_put present, if_neg fun same : k = key => outside (same ▸ member)]
    exact pass.untouched k (List.mem_cons_of_mem _ member)
  · intro k member absent
    rw [links]
    split
    · rfl
    · rename_i other
      refine pass.cleared k member fun found => absent ?_
      simpa [other] using found

/-- The last stream that stays is linked to where the pass goes on. -/
theorem relink {previous : Nat}
    (pass : Pass kind keys plain store first (kept ++ [previous]) joint resume rest)
    (present : store.get? previous = some stream) :
    Pass kind keys plain (store.put previous (stream.setNext kind resume)) first
      (kept ++ [previous]) resume resume rest := by
  have links := Store.link?_put_setNext present kind resume
  have distinct := List.nodup_append.1 pass.distinct
  have before := List.nodup_append.1 distinct.1
  have last : previous ∈ kept ++ [previous] := by simp
  have mine : previous ∈ keys := pass.within (List.mem_append_left _ last)
  have after (k : Nat) (member : k ∈ rest) : k ≠ previous :=
    (distinct.2.2 previous last k member).symm
  refine ⟨pass.front.relink_last (by rw [links, if_pos rfl]) fun k member => ?_,
    pass.back.congr fun k member => ?_, pass.distinct, pass.within, ?_, ?_, ?_⟩
  · rw [links, if_neg (before.2.2 k member previous (by simp))]
  · rw [links, if_neg (after k member)]
  · exact (pass.relinked.trans (Store.relinked_put present resume)).mono (by simp [mine])
  · intro k member
    rw [Store.get?_put present, if_neg (after k member), pass.untouched k member]
  · intro k member absent
    have other : k ≠ previous := by
      rintro rfl
      exact absent (List.mem_append_left _ last)
    rw [links, if_neg other, pass.cleared k member absent]

/-- While no stream has stayed, the line begins where the pass goes on. -/
theorem restart (pass : Pass kind keys plain store first [] joint resume rest) :
    Pass kind keys plain store resume [] resume resume rest :=
  { pass with front := rfl }

theorem finish {head last : Nat} (pass : Pass kind keys plain store (some head) kept none none [])
    (tail : kept.getLast? = some last) :
    Filtered kind keys kept plain store ⟨some ⟨head, last⟩⟩ :=
  ⟨holds_of_chain pass.front tail, pass.relinked, fun k member absent =>
    pass.cleared k member (by simpa using absent)⟩

theorem finish_empty (pass : Pass kind keys plain store first [] joint resume []) :
    Filtered kind keys [] plain store empty :=
  ⟨holds_empty kind store, pass.relinked, pass.cleared⟩

/-- The first stream still to be judged is there, in both stores. -/
theorem exists_get? (pass : Pass kind keys plain store first kept joint (some key) (key :: rest)) :
    ∃ stream, store.get? key = some stream ∧ plain.get? key = some stream ∧
      Chain (store.link? kind) (stream.next kind) rest none := by
  obtain ⟨-, next, linked, following⟩ := pass.back
  obtain ⟨stream, present, rfl⟩ := Option.map_eq_some_iff.1 linked
  exact ⟨stream, present, by rw [← pass.untouched key List.mem_cons_self, present], following⟩

/-- The last stream that stays is there. -/
theorem exists_get?_kept {previous : Nat}
    (pass : Pass kind keys plain store first (kept ++ [previous]) joint resume rest) :
    ∃ stream, store.get? previous = some stream := by
  obtain ⟨next, linked⟩ := pass.front.exists_link (List.mem_append_right kept List.mem_cons_self)
  obtain ⟨stream, present, -⟩ := Option.map_eq_some_iff.1 linked
  exact ⟨stream, present⟩

variable {judge : σ → Nat → Stream → Verdict σ} {ends : Ends} {budget : Nat}

/-- The pass over the last stream of the line. -/
theorem retainFrom_last (keepsLink : KeepsLink kind judge) (state : σ)
    (pass : Pass kind keys plain store (some ends.head) kept (some ends.tail) (some ends.tail)
      [ends.tail]) :
    ∃ more state' judged queue after,
      judgeAll judge [ends.tail] state plain = .ok (more, state', judged) ∧
      retainFrom kind judge (budget + 1) ends kept.getLast? ends.tail state store =
        .ok (queue, state', after) ∧
      Filtered kind keys (kept ++ more) judged after queue := by
  obtain ⟨stream, present, presentPlain, following⟩ := pass.exists_get?
  have same := keepsLink state ends.tail stream
  generalize decided : judge state ends.tail stream = verdict at same
  have noNext : verdict.stream.next kind = none := same.trans following
  have seen := pass.judged present same
  have present' : (store.put ends.tail verdict.stream).get? ends.tail = some verdict.stream := by
    rw [Store.get?_put present, if_pos rfl]
  have judged : judgeAll judge [ends.tail] state plain =
      .ok (if verdict.keep then [ends.tail] else [], verdict.state,
        plain.put ends.tail verdict.stream) := judgeAll_cons presentPlain decided rfl
  cases stays : verdict.keep with
  | true =>
    have linked := (Store.link?_of_get? present' kind).trans (congrArg some noNext)
    rw [stays, if_pos rfl] at judged
    refine ⟨_, _, _, ⟨some ends⟩, _, judged, ?_, (seen.keep linked).finish (by simp)⟩
    simp [retainFrom, Store.fetch_of_get? present, Store.set_of_get? present, decided, stays,
      noNext]
  | false =>
    have unlinked := seen.unlink present'
    rw [noNext] at unlinked
    rw [stays, if_neg Bool.false_ne_true] at judged
    rcases List.eq_nil_or_concat' kept with rfl | ⟨front, previous, rfl⟩
    · refine ⟨_, _, _, empty, _, judged, ?_, unlinked.finish_empty⟩
      simp [retainFrom, Store.fetch_of_get? present, Store.set_of_get? present, decided, stays,
        noNext, Store.modify_of_get? present']
    · obtain ⟨old, presentPrevious⟩ := unlinked.exists_get?_kept
      have filtered := (unlinked.relink presentPrevious).finish List.getLast?_concat
      rw [← List.append_nil (front ++ [previous])] at filtered
      refine ⟨_, _, _, ⟨some { ends with tail := previous }⟩, _, judged, ?_, filtered⟩
      simp [retainFrom, Store.fetch_of_get? present, Store.set_of_get? present, decided, stays,
        noNext, Store.modify_of_get? present', Store.modify_of_get? presentPrevious]

/-- The pass over a line does what judging the line does, and never meets a fault. -/
theorem retainFrom (keepsLink : KeepsLink kind judge) {current : Nat} (state : σ)
    (pass : Pass kind keys plain store (some ends.head) kept (some current) (some current) rest)
    (tail : rest.getLast? = some ends.tail) (enough : rest.length ≤ budget) :
    ∃ more state' judged queue after,
      judgeAll judge rest state plain = .ok (more, state', judged) ∧
      Queue.retainFrom kind judge budget ends kept.getLast? current state store =
        .ok (queue, state', after) ∧
      Filtered kind keys (kept ++ more) judged after queue := by
  induction rest generalizing kept plain store ends current state budget with
  | nil => cases tail
  | cons key rest ih =>
    obtain rfl : current = key := Option.some.inj pass.back.1
    obtain ⟨budget, rfl⟩ : ∃ b, budget = b + 1 := Nat.exists_eq_add_one.2 (by simp at enough; omega)
    -- The pass ends at the last stream whether it stays or not, so that stream is no step.
    cases rest with
    | nil =>
      obtain rfl : current = ends.tail := Option.some.inj tail
      exact pass.retainFrom_last keepsLink state
    | cons second rest =>
      obtain ⟨stream, present, presentPlain, following⟩ := pass.exists_get?
      have same := keepsLink state current stream
      generalize decided : judge state current stream = verdict at same
      have next : verdict.stream.next kind = some second := same.trans following.1
      have seen := pass.judged present same
      have present' : (store.put current verdict.stream).get? current = some verdict.stream := by
        rw [Store.get?_put present, if_pos rfl]
      rw [List.getLast?_cons_cons] at tail
      have enough' : (second :: rest).length ≤ budget := by simpa using enough
      cases stays : verdict.keep with
      | true =>
        have linked := (Store.link?_of_get? present' kind).trans (congrArg some next)
        obtain ⟨more, state', judged, queue, after, plainly, along, filtered⟩ :=
          ih verdict.state (seen.keep linked) tail enough'
        rw [List.getLast?_concat] at along
        have passed := judgeAll_cons presentPlain decided plainly
        rw [stays, if_pos rfl] at passed
        refine ⟨_, _, _, queue, after, passed, ?_, by simpa using filtered⟩
        simp [Queue.retainFrom, Store.fetch_of_get? present, Store.set_of_get? present, decided,
            stays, next, along]
      | false =>
        have unlinked := seen.unlink present'
        rw [next] at unlinked
        -- A stream that leaves is skipped by the head or by the last stream that stayed.
        rcases List.eq_nil_or_concat' kept with rfl | ⟨front, previous, rfl⟩
        · obtain ⟨more, state', judged, queue, after, plainly, along, filtered⟩ :=
            @ih [] _ _ { ends with head := second } _ _ verdict.state unlinked.restart tail enough'
          have passed := judgeAll_cons presentPlain decided plainly
          rw [stays, if_neg Bool.false_ne_true] at passed
          rw [List.getLast?_nil] at along
          refine ⟨_, _, _, queue, after, passed, ?_, filtered⟩
          simp [Queue.retainFrom, Store.fetch_of_get? present, Store.set_of_get? present, decided,
              stays, next, Store.modify_of_get? present', along]
        · obtain ⟨old, presentPrevious⟩ := unlinked.exists_get?_kept
          obtain ⟨more, state', judged, queue, after, plainly, along, filtered⟩ :=
            ih verdict.state (unlinked.relink presentPrevious) tail enough'
          rw [List.getLast?_concat] at along
          have passed := judgeAll_cons presentPlain decided plainly
          rw [stays, if_neg Bool.false_ne_true] at passed
          refine ⟨_, _, _, queue, after, passed, ?_, filtered⟩
          simp [Queue.retainFrom, Store.fetch_of_get? present, Store.set_of_get? present, decided,
              stays, next, Store.modify_of_get? present', Store.modify_of_get? presentPrevious,
              along]

end Pass

section

variable {queue : Queue} {kind : QueueKind} {store : Store} {keys : List Nat}

/-- Filtering a queue does what one pass over its line does, and never meets a fault. -/
theorem Holds.retain {judge : σ → Nat → Stream → Verdict σ} (held : queue.Holds kind store keys)
    (keepsLink : KeepsLink kind judge) (start : σ) {budget : Nat} (enough : keys.length ≤ budget) :
    ∃ kept state judged queue' after,
      judgeAll judge keys start store = .ok (kept, state, judged) ∧
      queue.retain kind judge start budget store = .ok (queue', state, after) ∧
      Filtered kind keys kept judged after queue' := by
  cases keys with
  | nil =>
    rw [held.eq_empty]
    exact ⟨[], start, store, empty, store, rfl, retain_empty .., holds_empty kind store,
      .refl kind [] store, by simp⟩
  | cons head rest =>
    obtain ⟨ends, whole⟩ : ∃ ends, queue.ends = some ends := by
      rw [← Option.isSome_iff_exists]
      simpa [head?] using congrArg Option.isSome held.head
    have first : ends.head = head := by simpa [head?, whole] using held.head
    have tail : (head :: rest).getLast? = some ends.tail := by
      simpa [tail?, whole] using held.tail.symm
    have pass : Pass kind (head :: rest) store store (some ends.head) [] (some ends.head)
        (some ends.head) (head :: rest) := by
      refine ⟨rfl, ?_, held.nodup, by simp, .refl kind _ store, fun _ _ => rfl,
        fun k member absent => absurd member (by simpa using absent)⟩
      rw [first, ← List.head?_cons, ← held.head]
      exact held.linked
    obtain ⟨kept, state, judged, queue', after, plainly, along, filtered⟩ :=
      pass.retainFrom keepsLink start tail enough
    refine ⟨kept, state, judged, queue', after, plainly, ?_, filtered⟩
    rw [Queue.retain, whole]
    exact along

/-- The streams at `keys` are judged by the decision to drop some of them. -/
theorem judgeAll_dropping (kind : QueueKind) (drop : Stream → Bool) (distinct : keys.Nodup)
    (present : ∀ k ∈ keys, ∃ stream, store.get? k = some stream) :
    ∃ after, judgeAll (dropping kind drop) keys () store =
        .ok (keys.filter fun k => !(store.get? k).any drop, (), after) ∧
      store.Rewritten after ∧
      ∀ k, after.get? k = if k ∈ keys then
        (store.get? k).map fun stream => if drop stream then stream.setQueued kind false else stream
      else store.get? k := by
  induction keys generalizing store with
  | nil => exact ⟨store, rfl, .refl store, by simp⟩
  | cons key keys ih =>
    obtain ⟨absent, distinct⟩ := List.nodup_cons.1 distinct
    obtain ⟨stream, found⟩ := present key List.mem_cons_self
    generalize decided : dropping kind drop () key stream = verdict
    have stays : verdict.keep = !drop stream := by
      cases dropped : drop stream <;> simp [← decided, dropping, dropped]
    have left : verdict.stream = if drop stream then stream.setQueued kind false else stream := by
      cases dropped : drop stream <;> simp [← decided, dropping, dropped]
    have elsewhere (k : Nat) (apart : k ≠ key) :
        (store.put key verdict.stream).get? k = store.get? k := by
      rw [Store.get?_put found, if_neg apart]
    have others (k : Nat) (member : k ∈ keys) :
        (store.put key verdict.stream).get? k = store.get? k :=
      elsewhere k fun same => absent (same ▸ member)
    obtain ⟨after, judged, rewritten, streams⟩ := ih distinct fun k member => by
      rw [others k member]
      exact present k (List.mem_cons_of_mem _ member)
    refine ⟨after, ?_, (Store.rewritten_put found _).trans rewritten, fun k => ?_⟩
    · have same : (keys.filter fun k => !((store.put key verdict.stream).get? k).any drop) =
          keys.filter fun k => !(store.get? k).any drop :=
        List.filter_congr fun k member => by rw [others k member]
      rw [judgeAll_cons found decided judged, same, List.filter_cons, found, Option.any_some,
        stays]
    · rw [streams]
      by_cases same : k = key
      · subst same
        rw [if_neg absent, if_pos List.mem_cons_self, Store.get?_put found, if_pos rfl, found, left]
        rfl
      · rw [elsewhere k same]
        simp [same]

/-- Evicting some streams of a line keeps the others, in their order. Those that leave
record it, and have no link. -/
theorem Holds.evict (held : queue.Holds kind store keys) (drop : Stream → Bool) :
    ∃ queue' judged after, queue.evict kind drop store = .ok (queue', after) ∧
      Filtered kind keys (keys.filter fun k => !(store.get? k).any drop) judged after queue' ∧
      store.Rewritten judged ∧
      ∀ k, judged.get? k = if k ∈ keys then
        (store.get? k).map fun stream => if drop stream then stream.setQueued kind false else stream
      else store.get? k := by
  have keepsLink : KeepsLink kind (dropping kind drop) := by
    intro state key stream
    rw [dropping]
    split <;> rfl
  obtain ⟨kept, state, judged, queue', after, plainly, along, filtered⟩ :=
    held.retain keepsLink () held.length_le
  obtain ⟨judged', passed, rewritten, streams⟩ :=
    judgeAll_dropping kind drop held.nodup fun k member => held.exists_get? member
  rw [passed] at plainly
  cases plainly
  refine ⟨queue', judged, after, ?_, filtered, rewritten, streams⟩
  simp [Queue.evict, along]

end

/-- What holds of the store, neither a change of a link of the kind nor a decision undoes. -/
structure PassKeeps (kind : QueueKind) (judge : σ → Nat → Stream → Verdict σ)
    (holds : Store → Prop) : Prop extends LinksKeep kind holds where
  decision : ∀ {store after : Store} {state : σ} {key : Nat} {stream : Stream}, holds store →
    store.fetch key = .ok stream → store.set key (judge state key stream).stream = .ok after →
      holds after

namespace PassKeeps

variable {kind : QueueKind} {judge : σ → Nat → Stream → Verdict σ} {holds : Store → Prop}
  {queue left : Queue} {store after : Store} {start last : σ} {budget : Nat}

theorem retainFrom {ends : Ends} {previous : Option Nat} {current : Nat}
    (keeps : PassKeeps kind judge holds) (first : holds store)
    (passed : retainFrom kind judge budget ends previous current start store =
      .ok (left, last, after)) : holds after := by
  induction budget generalizing ends previous current start store with
  | zero => cases passed
  | succ budget ih =>
    obtain ⟨stream, fetched, passed⟩ := Checked.bind_eq_ok_iff.1 passed
    obtain ⟨judged, set, passed⟩ := Checked.bind_eq_ok_iff.1 passed
    have decided := keeps.decision first fetched set
    dsimp only at passed
    split at passed
    · cases passed
    split at passed
    · split at passed
      · exact ih decided passed
      · cases passed
        exact decided
    · obtain ⟨cleared, modified, passed⟩ := Checked.bind_eq_ok_iff.1 passed
      have unlinked := keeps.link decided modified
      split at passed
      · obtain ⟨joined, relinked, passed⟩ := Checked.bind_eq_ok_iff.1 passed
        exact ih (keeps.link unlinked relinked) passed
      · obtain ⟨ended, relinked, passed⟩ := Checked.bind_eq_ok_iff.1 passed
        cases passed
        exact keeps.link unlinked relinked
      · exact ih unlinked passed
      · cases passed
        exact unlinked

theorem retain (keeps : PassKeeps kind judge holds) (first : holds store)
    (passed : queue.retain kind judge start budget store = .ok (left, last, after)) :
    holds after := by
  unfold Queue.retain at passed
  split at passed
  · cases passed
    exact first
  · exact keeps.retainFrom first passed

end PassKeeps

end StreamMux.Queue
