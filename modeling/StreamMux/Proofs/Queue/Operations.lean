import StreamMux.Proofs.Queue.Chain

/-!
# Pushing, popping and draining

What the operations on one queue do to the line that it holds: a push appends, a pop
takes the first key, a drain takes all of them in order. None of them meets a
fault, and each changes links of its own line only. Whatever the links are, they keep
what changes of links keep (`Queue.LinksKeep`).
-/

namespace StreamMux.Queue

variable {queue : Queue} {kind : QueueKind} {store : Store} {keys : List Nat} {key : Nat}
  {stream : Stream}

/-- A stream that is in no queue of the kind is appended to the line. -/
theorem Holds.push (held : queue.Holds kind store keys) (present : store.get? key = some stream)
    (unlinked : stream.next kind = none) (absent : key ∉ keys) :
    ∃ queue' after, queue.push kind key store = .ok (queue', after) ∧
      queue'.Holds kind after (keys ++ [key]) ∧ store.Relinked kind keys after := by
  rcases List.eq_nil_or_concat' keys with rfl | ⟨front, last, rfl⟩
  · rw [held.eq_empty]
    refine ⟨_, _, push_empty present unlinked, ?_, .refl kind [] store⟩
    refine holds_of_chain ⟨rfl, none, ?_, rfl⟩ rfl
    rw [Store.link?_of_get? present, unlinked]
  · have tail : queue.tail? = some last := by rw [held.tail, List.getLast?_concat]
    have start := held.linked.first_eq_head?
    obtain ⟨first, head⟩ : ∃ first, queue.head? = some first := by
      rw [start, ← Option.isSome_iff_exists]
      simp
    obtain ⟨old, presentLast⟩ := held.exists_get? (List.mem_append_right front List.mem_cons_self)
    have apart : key ≠ last := fun same => absent (by simp [same])
    have distinct := List.nodup_append.1 held.nodup
    let after := store.put last (old.setNext kind (some key))
    have pushed : queue.push kind key store = .ok (⟨some ⟨first, key⟩⟩, after) := by
      simp [Queue.push, Store.fetch_of_get? present, unlinked, ends_eq head tail,
        Store.modify_of_get? presentLast, after]
    have links := Store.link?_put_setNext presentLast kind (some key)
    have front_links : ∀ k ∈ front, after.link? kind k = store.link? kind k := by
      intro k member
      rw [links, if_neg (distinct.2.2 k member last (by simp))]
    have linked := held.linked.relink_last (by rw [links, if_pos rfl]) front_links
    refine ⟨_, _, pushed, holds_of_chain ?_ (by simp), ?_⟩
    · refine Chain.append_iff.2 ⟨some key, head ▸ linked, rfl, none, ?_, rfl⟩
      rw [links, if_neg apart, Store.link?_of_get? present, unlinked]
    · exact (Store.relinked_put presentLast _).mono (by simp)

/-- An empty queue answers nothing. -/
theorem Holds.pop_nil (held : queue.Holds kind store []) :
    queue.pop kind store = .ok (none, queue, store) := by
  rw [held.eq_empty]
  exact pop_empty kind store

/-- The first stream of the line is taken off, and its link is cleared. -/
theorem Holds.pop_cons (held : queue.Holds kind store (key :: keys)) :
    ∃ queue' after, queue.pop kind store = .ok (some key, queue', after) ∧
      queue'.Holds kind after keys ∧ store.Relinked kind [key] after ∧
      after.link? kind key = some none := by
  obtain ⟨head, next, linked, following⟩ := held.linked
  obtain ⟨stream, present⟩ := held.exists_get? List.mem_cons_self
  have link := Store.link?_of_get? present kind
  have next_eq : stream.next kind = next := Option.some.inj (link.symm.trans linked)
  obtain ⟨absent, nodup⟩ := List.nodup_cons.1 held.nodup
  cases keys with
  | nil =>
    have last : next = none := following
    have tail : queue.tail? = some key := held.tail
    have popped := pop_single present (next_eq.trans last)
    rw [show queue = ⟨some ⟨key, key⟩⟩ from congrArg Queue.mk (ends_eq head tail)]
    exact ⟨_, _, popped, holds_empty kind store, .refl kind [key] store, last ▸ linked⟩
  | cons second rest =>
    have start : next = some second := following.1
    obtain ⟨last, tail⟩ : ∃ last, queue.tail? = some last := by
      rw [held.tail, ← Option.isSome_iff_exists]
      simp
    have apart : key ≠ last := by
      rintro rfl
      rw [held.tail, List.getLast?_cons_cons] at tail
      exact absent (List.mem_of_getLast? tail)
    let after := store.put key (stream.setNext kind none)
    have popped : queue.pop kind store = .ok (some key, ⟨some ⟨second, last⟩⟩, after) := by
      simp [Queue.pop, ends_eq head tail, Store.fetch_of_get? present, apart, next_eq, start,
        Store.modify_of_get? present, after]
    have links := Store.link?_put_setNext present kind none
    refine ⟨_, _, popped, holds_of_chain ?_ ?_, Store.relinked_put present _, ?_⟩
    · refine (start ▸ following).congr fun k member => ?_
      have other : k ≠ key := by
        rintro rfl
        exact absent member
      rw [links, if_neg other]
    · rw [held.tail, List.getLast?_cons_cons] at tail
      exact tail
    · rw [links, if_pos rfl]

/-- All streams of the line are taken off, and their links are cleared. -/
theorem Holds.drainWithin {budget : Nat} (held : queue.Holds kind store keys)
    (enough : keys.length ≤ budget) :
    ∃ after, queue.drainWithin kind budget store = .ok (keys, after) ∧
      store.Relinked kind keys after ∧ ∀ k ∈ keys, after.link? kind k = some none := by
  induction keys generalizing budget queue store with
  | nil =>
    rw [held.eq_empty]
    exact ⟨store, drainWithin_empty .., .refl kind [] store, by simp⟩
  | cons key keys ih =>
    obtain ⟨budget, rfl⟩ : ∃ b, budget = b + 1 := Nat.exists_eq_add_one.2 (by simp at enough; omega)
    obtain ⟨queue', middle, popped, remaining, relinked, cleared⟩ := held.pop_cons
    obtain ⟨after, drained, relinked', cleared'⟩ := ih remaining (by simpa using enough)
    refine ⟨after, by simp [Queue.drainWithin, popped, drained], relinked.trans relinked', ?_⟩
    intro k member
    rcases List.mem_cons.1 member with rfl | later
    · rw [relinked'.link?_eq (.inr (List.nodup_cons.1 held.nodup).1), cleared]
    · exact cleared' k later

theorem Holds.drain (held : queue.Holds kind store keys) :
    ∃ after, queue.drain kind store = .ok (keys, after) ∧
      store.Relinked kind keys after ∧ ∀ k ∈ keys, after.link? kind k = some none :=
  held.drainWithin (Nat.le_succ_of_le held.length_le)

/-- What holds of the store, no change of a link of the kind undoes. -/
structure LinksKeep (kind : QueueKind) (holds : Store → Prop) : Prop where
  link : ∀ {store after : Store} {key : Nat} {next : Option Nat}, holds store →
    store.modify key (·.setNext kind next) = .ok after → holds after

namespace LinksKeep

variable {holds : Store → Prop} {left : Queue} {after : Store}

theorem push (keeps : LinksKeep kind holds) (start : holds store)
    (pushed : queue.push kind key store = .ok (left, after)) : holds after := by
  obtain ⟨stream, -, pushed⟩ := Checked.bind_eq_ok_iff.1 pushed
  dsimp only at pushed
  split at pushed
  · cases pushed
  · split at pushed
    · cases pushed
      exact start
    · obtain ⟨linked, modified, pushed⟩ := Checked.bind_eq_ok_iff.1 pushed
      cases pushed
      exact keeps.link start modified

theorem pop {popped : Option Nat} (keeps : LinksKeep kind holds) (start : holds store)
    (done : queue.pop kind store = .ok (popped, left, after)) : holds after := by
  unfold Queue.pop at done
  split at done
  · cases done
    exact start
  · obtain ⟨stream, -, done⟩ := Checked.bind_eq_ok_iff.1 done
    dsimp only at done
    split at done
    · split at done
      · cases done
      · cases done
        exact start
    · obtain ⟨cleared, modified, done⟩ := Checked.bind_eq_ok_iff.1 done
      split at done
      · cases done
      · cases done
        exact keeps.link start modified

theorem drainWithin {budget : Nat} (keeps : LinksKeep kind holds) (start : holds store)
    (drained : queue.drainWithin kind budget store = .ok (keys, after)) : holds after := by
  induction budget generalizing queue store keys with
  | zero =>
    unfold Queue.drainWithin at drained
    split at drained
    · cases drained
      exact start
    · cases drained
  | succ budget ih =>
    obtain ⟨⟨popped, left, middle⟩, done, drained⟩ := Checked.bind_eq_ok_iff.1 drained
    have first := keeps.pop start done
    cases popped with
    | none =>
      cases drained
      exact first
    | some key =>
      obtain ⟨⟨keys, last⟩, later, drained⟩ := Checked.bind_eq_ok_iff.1 drained
      cases drained
      exact ih first later

end LinksKeep

end StreamMux.Queue
