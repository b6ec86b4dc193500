import StreamMux.Proofs.Queue.Filter

/-!
# Filtering over links of any shape

The links that a filter follows may lead anywhere: back into the line, out of the store, or along
the line of another queue. A filter that comes back to a stream it has kept goes round for ever,
however many of the streams on its way it drops (`Queue.Ring.retainFrom`). So a filter that comes to
an end has met no kept stream twice, and leaves a queue that holds a line
(`Queue.retain_leaves_line`).
-/

namespace StreamMux

namespace Store

variable {store : Store} {kind : QueueKind} {key k : Nat} {stream new : Stream}

/-- A stream that is replaced by one with the same link leaves every link as it was. -/
theorem link?_put_same (present : store.get? key = some stream)
    (same : new.next kind = stream.next kind) :
    (store.put key new).link? kind k = store.link? kind k := by
  rw [link?_put present]
  split
  · rename_i here
    rw [here, link?_of_get? present, same]
  · rfl

/-- A key that has a link has a stream. -/
theorem get?_of_link? {next : Option Nat} (linked : store.link? kind key = some next) :
    ∃ stream, store.get? key = some stream ∧ stream.next kind = next :=
  Option.map_eq_some_iff.1 linked

end Store

namespace Queue

variable {kind : QueueKind} {judge : σ → Nat → Stream → Verdict σ} {store after : Store}
  {queue left : Queue} {start last : σ} {budget : Nat}

/-- The links lead from `current` around to `current` again, through each of the keys once, and
`previous` is the last of them. -/
structure Ring (link : Nat → Option (Option Nat)) (previous current : Nat) (keys : List Nat) :
    Prop where
  around : Chain link (some current) keys (some current)
  last : keys.getLast? = some previous
  nodup : keys.Nodup

namespace Ring

variable {link link' : Nat → Option (Option Nat)} {previous current next : Nat}
  {keys rest : List Nat}

theorem congr (ring : Ring link previous current keys) (same : ∀ k, link' k = link k) :
    Ring link' previous current keys :=
  ⟨ring.around.congr fun k _ => same k, ring.last, ring.nodup⟩

/-- A ring begins with the stream that is next, and that stream has a link. -/
theorem exists_next (ring : Ring link previous current keys) :
    ∃ next rest, keys = current :: rest ∧ link current = some (some next) ∧
      Chain link (some next) rest (some current) := by
  obtain ⟨around, last, -⟩ := ring
  cases keys with
  | nil => cases last
  | cons first rest =>
    obtain ⟨begins, next, linked, following⟩ := around
    obtain rfl : current = first := Option.some.inj begins
    cases rest with
    | nil =>
      obtain rfl : next = some current := following
      exact ⟨current, [], rfl, linked, rfl⟩
    | cons second rest =>
      obtain rfl : next = some second := following.1
      exact ⟨second, second :: rest, rfl, linked, following⟩

/-- One step along the ring. -/
theorem advance (ring : Ring link previous current (current :: rest))
    (linked : link current = some (some next))
    (following : Chain link (some next) rest (some current)) :
    Ring link current next (rest ++ [current]) where
  around := Chain.append_iff.2 ⟨some current, following, rfl, some next, linked, rfl⟩
  last := List.getLast?_concat
  nodup := (List.perm_append_singleton current rest).symm.nodup ring.nodup

/-- A stream that is taken out makes the ring smaller, unless it is the only one: it is linked to
itself again. -/
theorem skip (ring : Ring link previous current (current :: rest))
    (following : Chain link (some next) rest (some current))
    (relinked : ∀ k, link' k =
      if k = previous then some (some next) else if k = current then some none else link k) :
    ∃ keys, Ring link' previous next keys := by
  obtain ⟨-, last, nodup⟩ := ring
  obtain ⟨absent, distinct⟩ := List.nodup_cons.1 nodup
  rcases List.eq_nil_or_concat' rest with rfl | ⟨front, final, rfl⟩
  · obtain rfl : current = previous := Option.some.inj last
    obtain rfl : next = current := Option.some.inj following
    have linked : link' next = some (some next) := by rw [relinked, if_pos rfl]
    exact ⟨[next], ⟨rfl, some next, linked, rfl⟩, rfl, nodup⟩
  · obtain rfl : final = previous := by
      rw [← List.cons_append, List.getLast?_concat] at last
      exact Option.some.inj last
    refine ⟨front ++ [final], ?_, List.getLast?_concat, distinct⟩
    refine following.relink_last (by rw [relinked, if_pos rfl]) fun k member => ?_
    have inside : k ∈ front ++ [final] := List.mem_append_left _ member
    have before : k ≠ final :=
      (List.nodup_append.1 distinct).2.2 k member final List.mem_cons_self
    have other : k ≠ current := fun same => absent (same ▸ inside)
    rw [relinked, if_neg before, if_neg other]

/-- A pass that has come into a ring never leaves it, whatever it keeps and drops. -/
theorem retainFrom (ring : Ring (store.link? kind) previous current keys)
    (keepsLink : KeepsLink kind judge) (ends : Ends) (state : σ) (budget : Nat) :
    Queue.retainFrom kind judge budget ends (some previous) current state store =
      .error .unfinished := by
  induction budget generalizing store previous current keys state with
  | zero => rfl
  | succ budget ih =>
    obtain ⟨next, rest, rfl, linked, following⟩ := ring.exists_next
    obtain ⟨stream, present, leads⟩ := Store.get?_of_link? linked
    have same := keepsLink state current stream
    generalize decided : judge state current stream = verdict at same
    have onward : verdict.stream.next kind = some next := same.trans leads
    let judged := store.put current verdict.stream
    have links (k : Nat) : judged.link? kind k = store.link? kind k :=
      Store.link?_put_same present same
    have there : judged.get? current = some verdict.stream := by
      rw [Store.get?_put present, if_pos rfl]
    cases stays : verdict.keep with
    | true =>
      have goes := ih ((ring.advance linked following).congr links) verdict.state
      simpa [Queue.retainFrom, Store.fetch_of_get? present, Store.set_of_get? present, decided,
        stays, onward] using goes
    | false =>
      let unlinked := judged.put current (verdict.stream.setNext kind none)
      have cleared (k : Nat) : unlinked.link? kind k =
          if k = current then some none else store.link? kind k := by
        rw [Store.link?_put_setNext there, links]
      -- The one before is still there: it is the stream itself, or has kept its link.
      obtain ⟨old, presentPrevious⟩ : ∃ old, unlinked.get? previous = some old := by
        obtain ⟨next', linked'⟩ := ring.around.exists_link (List.mem_of_getLast? ring.last)
        obtain ⟨link, found⟩ : ∃ link, unlinked.link? kind previous = some link := by
          rw [cleared]
          split
          · exact ⟨none, rfl⟩
          · exact ⟨next', linked'⟩
        obtain ⟨old, found, -⟩ := Store.get?_of_link? found
        exact ⟨old, found⟩
      have relinked (k : Nat) :
          (unlinked.put previous (old.setNext kind (some next))).link? kind k =
            if k = previous then some (some next)
            else if k = current then some none else store.link? kind k := by
        rw [Store.link?_put_setNext presentPrevious, cleared]
      obtain ⟨keys, smaller⟩ := ring.skip following relinked
      have drops : judged.modify current (·.setNext kind none) = .ok unlinked :=
        Store.modify_of_get? there _
      have joins := Store.modify_of_get? presentPrevious (·.setNext kind (some next))
      have goes := ih smaller verdict.state
      simpa [Queue.retainFrom, Store.fetch_of_get? present, Store.set_of_get? present, decided,
        stays, onward, judged, drops, joins] using goes

end Ring

/-- The streams kept so far are linked from the head of the queue to the stream that is judged
next, and `previous` is the last of them. -/
structure Advance (kind : QueueKind) (store : Store) (head : Nat) (previous : Option Nat)
    (current : Nat) (kept : List Nat) : Prop where
  front : Chain (store.link? kind) (some head) kept (some current)
  last : kept.getLast? = previous
  nodup : kept.Nodup

namespace Advance

variable {head current next : Nat} {previous : Option Nat} {kept : List Nat} {stream new : Stream}

/-- A stream that was kept and is met again closes a ring. -/
theorem exists_ring (advance : Advance kind store head previous current kept)
    (again : current ∈ kept) :
    ∃ one keys, previous = some one ∧ Ring (store.link? kind) one current keys := by
  obtain ⟨front, last, nodup⟩ := advance
  obtain ⟨before, behind, rfl⟩ := List.append_of_mem again
  obtain ⟨middle, -, around⟩ := Chain.append_iff.1 front
  obtain rfl : middle = some current := around.1
  obtain ⟨one, final⟩ : ∃ one, (current :: behind).getLast? = some one := by
    rw [← Option.isSome_iff_exists]
    simp
  refine ⟨one, current :: behind, ?_, around, final, (List.nodup_append.1 nodup).2.1⟩
  rw [← last, List.getLast?_append, final]
  rfl

/-- Judging a stream leaves the links. -/
theorem judged (advance : Advance kind store head previous current kept)
    (present : store.get? current = some stream) (same : new.next kind = stream.next kind) :
    Advance kind (store.put current new) head previous current kept :=
  ⟨advance.front.congr fun _ _ => Store.link?_put_same present same, advance.last, advance.nodup⟩

/-- A stream that is kept is the last one kept. -/
theorem keep (advance : Advance kind store head previous current kept)
    (linked : store.link? kind current = some (some next)) (fresh : current ∉ kept) :
    Advance kind store head (some current) next (kept ++ [current]) where
  front := Chain.append_iff.2 ⟨some current, advance.front, rfl, some next, linked, rfl⟩
  last := List.getLast?_concat
  nodup := (List.perm_append_singleton current kept).symm.nodup
    (List.nodup_cons.2 ⟨fresh, advance.nodup⟩)

/-- A stream that is kept and has no link ends the line. -/
theorem holds_of_keep (advance : Advance kind store head previous current kept)
    (linked : store.link? kind current = some none) :
    (⟨some ⟨head, current⟩⟩ : Queue).Holds kind store (kept ++ [current]) :=
  holds_of_chain (Chain.append_iff.2 ⟨some current, advance.front, rfl, none, linked, rfl⟩)
    List.getLast?_concat

/-- A stream that is dropped loses its link. The streams kept so far have theirs. -/
theorem unlink (advance : Advance kind store head previous current kept)
    (present : store.get? current = some stream) (fresh : current ∉ kept) :
    Advance kind (store.put current (stream.setNext kind none)) head previous current kept := by
  refine ⟨advance.front.congr fun k member => ?_, advance.last, advance.nodup⟩
  have other : k ≠ current := fun same => fresh (same ▸ member)
  rw [Store.link?_put_setNext present, if_neg other]

/-- The last stream kept is there. -/
theorem exists_get? {one : Nat} (advance : Advance kind store head (some one) current kept) :
    ∃ stream, store.get? one = some stream := by
  obtain ⟨next, linked⟩ := advance.front.exists_link (List.mem_of_getLast? advance.last)
  obtain ⟨stream, present, -⟩ := Store.get?_of_link? linked
  exact ⟨stream, present⟩

/-- The last stream kept is linked past the one that is dropped. -/
theorem relink {one : Nat} (advance : Advance kind store head (some one) current kept)
    (present : store.get? one = some stream) (next : Option Nat) :
    Chain ((store.put one (stream.setNext kind next)).link? kind) (some head) kept next := by
  obtain ⟨front, last, nodup⟩ := advance
  obtain ⟨before, rfl⟩ := List.getLast?_eq_some_iff.1 last
  have links := Store.link?_put_setNext present kind next
  refine front.relink_last (by rw [links, if_pos rfl]) fun k member => ?_
  have other : k ≠ one := (List.nodup_append.1 nodup).2.2 k member one List.mem_cons_self
  rw [links, if_neg other]

/-- A pass that comes to an end leaves a queue that holds a line. -/
theorem retainFrom {ends : Ends} (advance : Advance kind store ends.head previous current kept)
    (keepsLink : KeepsLink kind judge)
    (passed : Queue.retainFrom kind judge budget ends previous current start store =
      .ok (left, last, after)) : ∃ keys, left.Holds kind after keys := by
  induction budget generalizing store ends previous current kept start with
  | zero => cases passed
  | succ budget ih =>
    by_cases again : current ∈ kept
    · obtain ⟨one, keys, rfl, ring⟩ := advance.exists_ring again
      rw [ring.retainFrom keepsLink] at passed
      cases passed
    obtain ⟨stream, fetched, passed⟩ := Checked.bind_eq_ok_iff.1 passed
    have present := Store.fetch_eq_ok_iff.1 fetched
    have seen := advance.judged present (keepsLink start current stream)
    generalize judge start current stream = verdict at passed seen
    dsimp only at passed
    rw [Store.set_of_get? present, Checked.ok_bind] at passed
    have there : (store.put current verdict.stream).get? current = some verdict.stream := by
      rw [Store.get?_put present, if_pos rfl]
    have linked := Store.link?_of_get? there kind
    generalize store.put current verdict.stream = judged at passed seen there linked
    split at passed
    · cases passed
    rename_i followed
    split at passed
    · split at passed
      · rename_i next leads
        exact ih (seen.keep (linked.trans (congrArg some leads)) again) passed
      · rename_i leads
        cases passed
        have final : current = ends.tail := by simpa [leads] using followed
        have held := seen.holds_of_keep (linked.trans (congrArg some leads))
        rw [final] at held
        exact ⟨_, held⟩
    · rw [Store.modify_of_get? there, Checked.ok_bind] at passed
      have unlinked := seen.unlink there again
      generalize judged.put current (verdict.stream.setNext kind none) = shorter at passed unlinked
      split at passed
      · rename_i one next _ _
        obtain ⟨old, found⟩ := unlinked.exists_get?
        rw [Store.modify_of_get? found, Checked.ok_bind] at passed
        exact ih ⟨unlinked.relink found (some next), unlinked.last, unlinked.nodup⟩ passed
      · rename_i one _ _
        obtain ⟨old, found⟩ := unlinked.exists_get?
        rw [Store.modify_of_get? found, Checked.ok_bind] at passed
        cases passed
        exact ⟨kept, holds_of_chain (unlinked.relink found none) unlinked.last⟩
      · rename_i next _ _
        have restarted : Advance kind shorter next none next [] := ⟨rfl, rfl, List.nodup_nil⟩
        exact @ih shorter _ _ none [] { ends with head := next } restarted passed
      · cases passed
        exact ⟨[], holds_empty kind _⟩

end Advance

/-- Whatever the ends of a queue and the links in the store are, a filter that comes to an end
leaves a queue that holds a line: it is empty, or the links lead from its head through streams of
the store, through none twice, to its tail, which has no link. -/
theorem retain_leaves_line (keepsLink : KeepsLink kind judge)
    (passed : queue.retain kind judge start budget store = .ok (left, last, after)) :
    ∃ keys, left.Holds kind after keys := by
  unfold retain at passed
  split at passed
  · rename_i none
    cases passed
    have empty : queue = .empty := isEmpty_iff.1 (Option.isNone_iff_eq_none.2 none)
    exact ⟨[], empty ▸ holds_empty kind store⟩
  · rename_i ends whole
    have begins : Advance kind store ends.head none ends.head [] := ⟨rfl, rfl, List.nodup_nil⟩
    exact begins.retainFrom keepsLink passed

/-- The stream in the slot 0 is linked to that in the slot 1, and those in the slots 1 and 2 are
linked to each other. -/
def turnedBack : Store where
  slab :=
    let linked (next : Nat) : Slot Stream := .occupied (({} : Stream).setNext .send (some next))
    { slots := #[linked 1, linked 2, linked 1]
      size := 3
      vacantKey := 3
      capacity := 4 }

def turnedBackQueue : Queue := ⟨some ⟨0, 1⟩⟩

def answering (answers : List Bool) (_key : Nat) (stream : Stream) : Verdict (List Bool) :=
  ⟨answers.headD true, stream, answers.tail⟩

/-- The tail of the queue is linked to a stream that leads back to it. It is dropped, met again and
kept, so that it becomes the tail of the line that is left. -/
theorem retain_leaves_line_turnedBack :
    KeepsLink .send answering ∧ turnedBack.link? .send 1 = some (some 2) ∧
      ∃ after, turnedBackQueue.retain .send answering [true, false, true, true] 4 turnedBack =
          .ok (turnedBackQueue, [], after) ∧
        ∃ keys, turnedBackQueue.Holds .send after keys := by
  have keepsLink : KeepsLink .send answering := fun _ _ _ => rfl
  have passed : turnedBackQueue.retain .send answering [true, false, true, true] 4 turnedBack =
      .ok (turnedBackQueue, [], _) := rfl
  exact ⟨keepsLink, rfl, _, passed, retain_leaves_line keepsLink passed⟩

end Queue

end StreamMux
