import StreamMux.Proofs.Queue.Filter

/-!
# Pushing a stream that the queue holds

A push looks at the link of the pushed stream only, and the last stream of a line has none.
So a stream of the line is refused unless it is the last one, and the last one is linked to
itself (`Queue.Holds.pushesSoundly_iff`). Such a queue is `Queue.Looped`: it holds no line, a
drain takes what stood before the last stream and then ends in a fault, and a filter that keeps
what it meets goes round for ever.
-/

namespace StreamMux

namespace Chain

variable {link : Nat → Option (Option Nat)} {first stop : Option Nat} {keys : List Nat} {key : Nat}

/-- From a key of a chain, the link leads to another one or to where the chain leads. -/
theorem exists_next (chain : Chain link first keys stop) (member : key ∈ keys) :
    ∃ next, link key = some next ∧ (next = stop ∨ ∃ k ∈ keys, next = some k) := by
  induction keys generalizing first with
  | nil => cases member
  | cons start rest ih =>
    obtain ⟨-, next, linked, following⟩ := chain
    rcases List.mem_cons.1 member with rfl | later
    · refine ⟨next, linked, ?_⟩
      cases rest with
      | nil => exact .inl following
      | cons second rest => exact .inr ⟨second, by simp, following.1⟩
    · obtain ⟨next', linked', leads⟩ := ih following later
      exact ⟨next', linked', leads.imp_right fun ⟨k, inside, leads⟩ =>
        ⟨k, List.mem_cons_of_mem _ inside, leads⟩⟩

end Chain

/-- The links of these keys lead from each to another of them. -/
def Enclosed (link : Nat → Option (Option Nat)) (keys : List Nat) : Prop :=
  ∀ k ∈ keys, ∃ next ∈ keys, link k = some (some next)

namespace Enclosed

variable {link link' : Nat → Option (Option Nat)} {keys line : List Nat} {key : Nat}

/-- A chain that leads back to one of its keys. -/
theorem of_chain {first : Option Nat} (chain : Chain link first keys (some key))
    (member : key ∈ keys) : Enclosed link keys := by
  intro k inside
  obtain ⟨next, linked, rfl | ⟨other, inside', rfl⟩⟩ := chain.exists_next inside
  · exact ⟨key, member, linked⟩
  · exact ⟨other, inside', linked⟩

theorem congr (enclosed : Enclosed link keys) (same : ∀ k, link' k = link k) :
    Enclosed link' keys := by
  intro k inside
  rw [same]
  exact enclosed k inside

/-- No chain from there comes to an end. -/
theorem not_chain (enclosed : Enclosed link keys) (member : key ∈ keys) :
    ¬Chain link (some key) line none := by
  induction line generalizing key with
  | nil => exact nofun
  | cons start rest ih =>
    rintro ⟨begins, next, linked, following⟩
    obtain rfl : key = start := Option.some.inj begins
    obtain ⟨next', inside, linked'⟩ := enclosed key member
    rw [linked] at linked'
    cases linked'
    exact ih inside following

/-- A pass that keeps what it meets never comes to an end either, however long it may take. -/
theorem retainFrom {σ : Type} {kind : QueueKind} {judge : σ → Nat → Stream → Queue.Verdict σ}
    {store : Store} (enclosed : Enclosed (store.link? kind) keys)
    (keepsLink : Queue.KeepsLink kind judge)
    (keeps : ∀ state k stream, (judge state k stream).keep = true) (member : key ∈ keys)
    (budget : Nat) (ends : Ends) (previous : Option Nat) (state : σ) :
    Queue.retainFrom kind judge budget ends previous key state store = .error .unfinished := by
  induction budget generalizing store key previous state with
  | zero => rfl
  | succ budget ih =>
    obtain ⟨next, inside, linked⟩ := enclosed key member
    obtain ⟨stream, present, leads⟩ := Option.map_eq_some_iff.1 linked
    have same := (keepsLink state key stream).trans leads
    have links (k : Nat) : (store.put key (judge state key stream).stream).link? kind k =
        store.link? kind k := by
      rw [Store.link?_put present]
      split
      · rename_i here
        rw [here, linked, same]
      · rfl
    have onward := ih (enclosed.congr links) inside (some key) (judge state key stream).state
    simp [Queue.retainFrom, Store.fetch_of_get? present, Store.set_of_get? present, same, keeps,
      onward]

end Enclosed

namespace Queue

variable {queue : Queue} {kind : QueueKind} {store : Store} {keys front : List Nat}
  {key last : Nat} {stream : Stream}

/-- The ends of the queue are those of the line, and its last stream is linked to itself. -/
structure Looped (queue : Queue) (kind : QueueKind) (store : Store) (front : List Nat)
    (last : Nat) : Prop where
  tail : queue.tail? = some last
  linked : Chain (store.link? kind) queue.head? (front ++ [last]) (some last)
  nodup : (front ++ [last]).Nodup

namespace Looped

theorem enclosed (looped : queue.Looped kind store front last) :
    Enclosed (store.link? kind) (front ++ [last]) :=
  .of_chain looped.linked (by simp)

/-- The first stream is one of the line. -/
theorem exists_head (looped : queue.Looped kind store front last) :
    ∃ first ∈ front ++ [last], queue.ends = some ⟨first, last⟩ := by
  have linked := looped.linked
  cases front with
  | nil => exact ⟨last, by simp, ends_eq linked.1 looped.tail⟩
  | cons first rest => exact ⟨first, by simp, ends_eq linked.1 looped.tail⟩

/-- There is no line that the queue holds. -/
theorem not_holds (looped : queue.Looped kind store front last) (line : List Nat) :
    ¬queue.Holds kind store line := by
  intro held
  obtain ⟨first, inside, whole⟩ := looped.exists_head
  have linked := held.linked
  rw [head?, whole, Option.map_some] at linked
  exact looped.enclosed.not_chain inside linked

/-- The streams before the last one can be taken off, and the loop stays. -/
theorem pop_cons (looped : queue.Looped kind store (key :: front) last) :
    ∃ queue' after, queue.pop kind store = .ok (some key, queue', after) ∧
      queue'.Looped kind after front last := by
  obtain ⟨head, next, linked, following⟩ := looped.linked
  obtain ⟨absent, nodup⟩ := List.nodup_cons.1 looped.nodup
  obtain ⟨stream, present, leads⟩ := Option.map_eq_some_iff.1 linked
  have apart : key ≠ last := fun same => absent (by simp [same])
  obtain ⟨second, begins⟩ : ∃ second, next = some second := by
    cases front with
    | nil => exact ⟨last, following.1⟩
    | cons second rest => exact ⟨second, following.1⟩
  have popped : queue.pop kind store =
      .ok (some key, ⟨some ⟨second, last⟩⟩, store.put key (stream.setNext kind none)) := by
    simp [Queue.pop, ends_eq head looped.tail, Store.fetch_of_get? present, apart, leads, begins,
      Store.modify_of_get? present]
  refine ⟨_, _, popped, rfl, (begins ▸ following).congr fun k member => ?_, nodup⟩
  have other : k ≠ key := fun same => absent (same ▸ member)
  rw [Store.link?_put_setNext present, if_neg other]

/-- The last stream cannot be taken off. -/
theorem pop_last (looped : queue.Looped kind store [] last) :
    queue.pop kind store = .error .tailLinked := by
  obtain ⟨head, next, linked, rfl⟩ := looped.linked
  obtain ⟨stream, present, leads⟩ := Option.map_eq_some_iff.1 linked
  simp [Queue.pop, ends_eq head looped.tail, Store.fetch_of_get? present, leads]

/-- A drain ends in a fault at the last stream, however many streams stand before it. -/
theorem drainWithin {budget : Nat} (looped : queue.Looped kind store front last)
    (enough : front.length < budget) :
    queue.drainWithin kind budget store = .error .tailLinked := by
  induction front generalizing queue store budget with
  | nil =>
    obtain ⟨budget, rfl⟩ : ∃ b, budget = b + 1 := Nat.exists_eq_add_one.2 enough
    simp [Queue.drainWithin, looped.pop_last]
  | cons key front ih =>
    obtain ⟨budget, rfl⟩ : ∃ b, budget = b + 1 := Nat.exists_eq_add_one.2 (by omega)
    obtain ⟨queue', after, popped, remaining⟩ := looped.pop_cons
    have faults := ih remaining (by simpa using enough)
    simp [Queue.drainWithin, popped, faults]

theorem drain (looped : queue.Looped kind store front last) :
    queue.drain kind store = .error .tailLinked := by
  refine looped.drainWithin ?_
  have within := Store.length_le_of_links looped.nodup fun _ member =>
    looped.linked.exists_link member
  simp at within
  omega

/-- A filter that keeps what it meets never ends. -/
theorem retain {σ : Type} {judge : σ → Nat → Stream → Verdict σ}
    (looped : queue.Looped kind store front last) (keepsLink : KeepsLink kind judge)
    (keeps : ∀ state k stream, (judge state k stream).keep = true) (start : σ) (budget : Nat) :
    queue.retain kind judge start budget store = .error .unfinished := by
  obtain ⟨first, inside, whole⟩ := looped.exists_head
  rw [Queue.retain, whole]
  exact looped.enclosed.retainFrom keepsLink keeps inside budget _ none start

end Looped

/-- A stream of the line that another one follows is refused. -/
theorem Holds.push_followed (held : queue.Holds kind store keys) (member : key ∈ keys)
    (followed : keys.getLast? ≠ some key) : queue.push kind key store = .error .alreadyLinked := by
  obtain ⟨stream, present⟩ := held.exists_get? member
  obtain ⟨front, last, rfl⟩ : ∃ front last, keys = front ++ [last] :=
    (List.eq_nil_or_concat' keys).resolve_left (List.ne_nil_of_mem member)
  obtain ⟨middle, chain, leads, -⟩ := Chain.append_iff.1 held.linked
  have before : key ∈ front := by
    rcases List.mem_append.1 member with before | here
    · exact before
    · exact absurd (List.mem_singleton.1 here) (by simpa [eq_comm] using followed)
  obtain ⟨next, linked, follows⟩ := chain.exists_next before
  rw [Store.link?_of_get? present] at linked
  obtain ⟨follower, rfl⟩ : ∃ k, next = some k := by
    rcases follows with rfl | ⟨k, -, rfl⟩
    · exact ⟨last, leads⟩
    · exact ⟨k, rfl⟩
  exact push_linked present (Option.some.inj linked)

/-- The last stream of the line is linked to itself, and the ends of the queue stay. -/
theorem Holds.push_last (held : queue.Holds kind store (front ++ [last])) :
    ∃ after, queue.push kind last store = .ok (queue, after) ∧
      store.Relinked kind [last] after ∧ queue.Looped kind after front last := by
  obtain ⟨stream, present⟩ := held.exists_get? (List.mem_append_right front List.mem_cons_self)
  have tail : queue.tail? = some last := by rw [held.tail, List.getLast?_concat]
  obtain ⟨first, head⟩ : ∃ first, queue.head? = some first := by
    rw [held.head, ← Option.isSome_iff_exists]
    simp
  obtain ⟨middle, chain, leads, next, linked, ends⟩ := Chain.append_iff.1 held.linked
  have unlinked : stream.next kind = none := by
    rw [Store.link?_of_get? present] at linked
    exact (Option.some.inj linked).trans ends
  have pushed : queue.push kind last store =
      .ok (queue, store.put last (stream.setNext kind (some last))) := by
    rw [show queue = ⟨some ⟨first, last⟩⟩ from congrArg Queue.mk (ends_eq head tail)]
    simp [Queue.push, Store.fetch_of_get? present, unlinked, Store.modify_of_get? present]
  have links := Store.link?_put_setNext present kind (some last)
  have distinct := List.nodup_append.1 held.nodup
  refine ⟨_, pushed, Store.relinked_put present _, tail, ?_, held.nodup⟩
  refine held.linked.relink_last (by rw [links, if_pos rfl]) fun k member => ?_
  rw [links, if_neg (distinct.2.2 k member last (by simp))]

/-- A push refuses the stream, or the stream is not in the line and comes to its end. -/
def PushesSoundly (queue : Queue) (kind : QueueKind) (store : Store) (keys : List Nat)
    (key : Nat) : Prop :=
  queue.push kind key store = .error .alreadyLinked ∨
    key ∉ keys ∧ ∃ queue' after, queue.push kind key store = .ok (queue', after) ∧
      queue'.Holds kind after (keys ++ [key])

theorem Holds.pushesSoundly (held : queue.Holds kind store keys)
    (present : store.get? key = some stream) (other : keys.getLast? ≠ some key) :
    queue.PushesSoundly kind store keys key := by
  by_cases member : key ∈ keys
  · exact .inl (held.push_followed member other)
  · cases linked : stream.next kind with
    | some next => exact .inl (push_linked present linked)
    | none =>
      obtain ⟨queue', after, pushed, held', -⟩ := held.push present linked member
      exact .inr ⟨member, queue', after, pushed, held'⟩

/-- A push refuses a stream of the line or appends a new one, unless the stream is the last one of
the line. That one is not refused: it is linked to itself, and the queue holds no line any more. -/
theorem Holds.pushesSoundly_iff (held : queue.Holds kind store keys)
    (present : store.get? key = some stream) :
    (queue.PushesSoundly kind store keys key ↔ keys.getLast? ≠ some key) ∧
      (key ∈ keys →
        (queue.push kind key store = .error .alreadyLinked ↔ keys.getLast? ≠ some key)) ∧
      (keys.getLast? = some key →
        ∃ after, queue.push kind key store = .ok (queue, after) ∧
          queue.Looped kind after keys.dropLast key ∧ ∀ line, ¬queue.Holds kind after line) := by
  have pushed_last (last : keys.getLast? = some key) :
      key ∈ keys ∧ ∃ after, queue.push kind key store = .ok (queue, after) ∧
        queue.Looped kind after keys.dropLast key := by
    obtain ⟨front, rfl⟩ := List.getLast?_eq_some_iff.1 last
    obtain ⟨after, pushed, -, looped⟩ := held.push_last
    rw [List.dropLast_concat]
    exact ⟨by simp, after, pushed, looped⟩
  refine ⟨⟨fun sound last => ?_, held.pushesSoundly present⟩, fun member => ⟨fun refused last => ?_,
    held.push_followed member⟩, fun last => ?_⟩
  · obtain ⟨member, after, pushed, -⟩ := pushed_last last
    rcases sound with refused | ⟨absent, -⟩
    · rw [pushed] at refused
      cases refused
    · exact absent member
  · obtain ⟨-, after, pushed, -⟩ := pushed_last last
    rw [pushed] at refused
    cases refused
  · obtain ⟨-, after, pushed, looped⟩ := pushed_last last
    exact ⟨after, pushed, looped, looped.not_holds⟩

def waitingTwoZeroOne : Store where
  slab :=
    { slots := #[.occupied (({} : Stream).setNext .send (some 1)), .occupied {},
        .occupied (({} : Stream).setNext .send (some 0))]
      size := 3
      vacantKey := 3
      capacity := 4 }
  ids := .ofList [(.ofRaw 1, .slot 0), (.ofRaw 3, .slot 1), (.ofRaw 5, .slot 2)] compare

/-- The stream in the middle slot is the last of the line, and is pushed again. -/
theorem pushesSoundly_iff_lastOfThree :
    (⟨some ⟨2, 1⟩⟩ : Queue).Holds .send waitingTwoZeroOne [2, 0, 1] ∧
      waitingTwoZeroOne.get? 1 = some {} ∧
      ∃ after, (⟨some ⟨2, 1⟩⟩ : Queue).push .send 1 waitingTwoZeroOne = .ok (⟨some ⟨2, 1⟩⟩, after) ∧
        (⟨some ⟨2, 1⟩⟩ : Queue).Looped .send after [2, 0] 1 ∧
        ∀ line, ¬(⟨some ⟨2, 1⟩⟩ : Queue).Holds .send after line := by
  have held : (⟨some ⟨2, 1⟩⟩ : Queue).Holds .send waitingTwoZeroOne [2, 0, 1] :=
    holds_of_chain ⟨rfl, some 0, rfl, rfl, some 1, rfl, rfl, none, rfl, rfl⟩ rfl
  have present : waitingTwoZeroOne.get? 1 = some {} := rfl
  exact ⟨held, present, (held.pushesSoundly_iff present).2.2 rfl⟩

/-- The only stream of a queue is pushed again: it is in the line, and the push goes through. -/
theorem not_pushesSoundly_onlyStream :
    ∃ key store queue, Store.empty.insert (.ofRaw 1) {} = .ok (key, store) ∧
      empty.push .send key store = .ok (queue, store) ∧ queue.Holds .send store [key] ∧
      ¬queue.PushesSoundly .send store [key] key := by
  refine ⟨0, _, ⟨some ⟨0, 0⟩⟩, rfl, rfl, holds_of_chain ⟨rfl, none, rfl, rfl⟩ rfl, ?_⟩
  rintro (refused | ⟨absent, -⟩)
  · cases refused
  · exact absent (by simp)

end Queue

end StreamMux
