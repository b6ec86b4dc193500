import Mathlib.Logic.Equiv.Basic
import StreamMux.Proofs.Queue.Program

/-!
# Linked queues are plain lists

A program that keeps the discipline sees the same answers from queues as from plain lists
(`Store.Fresh.run_eq_lines`). The only way that it can end early is an insertion under an id
that is bound, which the store refuses. The proof runs both side by side:
`Queues.Models` says what they have in common, and each operation keeps it.
-/

namespace StreamMux

open Queue (Op Reply BlindToLinks judgeAll recorded)

namespace Store

variable {store after : Store} {id : StreamId} {key : Nat} {stream : Stream}

theorem unlinked_put (store : Store) (key : Nat) (stream : Stream) :
    (store.put key stream).unlinked = store.unlinked.put key stream.unlinked := by
  rw [put, unlinked, Slab.map_put]
  rfl

/-- Only the streams differ without the links. -/
theorem rewritten_unlinked (store : Store) : store.Rewritten store.unlinked :=
  ⟨rfl, rfl, Slab.map_map ..⟩

/-- An insertion puts the stream at the same key whatever the links are. -/
theorem Settled.insert_unlinked (settled : store.Settled) (unbound : store.key? id = none)
    (stream : Stream) :
    ∃ key after, store.insert id stream = .ok (key, after) ∧
      store.unlinked.insert id stream.unlinked = .ok (key, after.unlinked) ∧
      Inserted store id stream key after := by
  obtain ⟨key, after, done, inserted, -⟩ := settled.insert unbound stream
  obtain ⟨free, list⟩ := settled.slab
  obtain ⟨slab, placed, -⟩ := list.insert stream
  have plainly : store.unlinked.insert id stream.unlinked = _ :=
    insert_of_unbound unbound (Slab.map_insert placed)
  rw [insert_of_unbound unbound placed] at done
  cases done
  exact ⟨_, _, insert_of_unbound unbound placed, plainly, inserted⟩

/-- A removal answers the same stream but for its links. -/
theorem Settled.remove_unlinked (settled : store.Settled) (bound : store.key? id = some key)
    (present : store.get? key = some stream) :
    ∃ after, store.remove id = .ok (some stream, after) ∧
      store.unlinked.remove id = .ok (some stream.unlinked, after.unlinked) ∧
      Removed store id key after := by
  obtain ⟨after, done, removed, -⟩ := settled.remove bound present
  obtain ⟨free, list⟩ := settled.slab
  obtain ⟨slab, vacated, -⟩ := list.remove? present
  have plainly : store.unlinked.remove id = _ :=
    remove_of_bound bound (Slab.map_remove? vacated)
  rw [remove_of_bound bound vacated] at done
  cases done
  exact ⟨_, remove_of_bound bound vacated, plainly, removed⟩

end Store

namespace Queue

variable {σ : Type} {judge : σ → Nat → Stream → Verdict σ}

theorem BlindToLinks.recorded (blind : BlindToLinks judge) : BlindToLinks (recorded judge) := by
  intro state key stream links
  rw [Queue.recorded, blind]
  rfl

theorem BlindToLinks.links_eq (blind : BlindToLinks judge) (state : σ) (key : Nat)
    (stream : Stream) : (judge state key stream).stream.links = stream.links :=
  congrArg (·.stream.links) (blind state key stream stream.links)

theorem BlindToLinks.keepsLink (blind : BlindToLinks judge) (kind : QueueKind) :
    KeepsLink kind judge := by
  intro state key stream
  rw [Stream.next, blind.links_eq, Stream.next]

/-- A pass over a line does the same without links, and changes none. -/
theorem BlindToLinks.judgeAll (blind : BlindToLinks judge) {keys : List Nat} {store : Store}
    (present : ∀ k ∈ keys, ∃ stream, store.get? k = some stream) (state : σ) :
    ∃ kept last after, judgeAll judge keys state store = .ok (kept, last, after) ∧
      judgeAll judge keys state store.unlinked = .ok (kept, last, after.unlinked) ∧
      kept.Sublist keys ∧ store.Rewritten after ∧
      ∀ kind k, after.link? kind k = store.link? kind k := by
  induction keys generalizing state store with
  | nil => exact ⟨[], state, store, rfl, rfl, .slnil, .refl store, fun _ _ => rfl⟩
  | cons key keys ih =>
    obtain ⟨stream, found⟩ := present key List.mem_cons_self
    have foundPlain : store.unlinked.get? key = some stream.unlinked := by
      rw [Store.get?_unlinked, found, Option.map_some]
    generalize decided : judge state key stream = verdict
    have links : verdict.stream.links = stream.links := decided ▸ blind.links_eq state key stream
    have decidedPlain : judge state key stream.unlinked =
        { verdict with stream := verdict.stream.unlinked } := by
      rw [Stream.unlinked, blind, decided]
      rfl
    have rewritten := Store.rewritten_put found verdict.stream
    obtain ⟨kept, last, after, judged, plainly, sublist, rewritten', same⟩ :=
      @ih (store.put key verdict.stream) (fun k member => by
        obtain ⟨old, before⟩ := present k (List.mem_cons_of_mem _ member)
        exact rewritten.symm.exists_get? before) verdict.state
    rw [Store.unlinked_put] at plainly
    have judgedPlain := judgeAll_cons foundPlain decidedPlain plainly
    refine ⟨_, last, after, judgeAll_cons found decided judged, judgedPlain, ?_,
      rewritten.trans rewritten', fun kind k => ?_⟩
    · split
      · exact sublist.cons_cons key
      · exact sublist.cons key
    · rw [same, Store.link?_put found]
      split
      · rename_i here
        rw [here, Store.link?_of_get? found, Stream.next, links, Stream.next]
      · rfl

end Queue

variable {ι σ : Type} {kind : ι → QueueKind} {queues : Queues ι} {lines : Lines ι}

/-- The lists are the lines of the queues, lists of one kind have no stream in common, and
streams outside the lists of a kind have no link of it. -/
structure Queues.Models (kind : ι → QueueKind) (queues : Queues ι) (lines : Lines ι) : Prop where
  settled : queues.store.Settled
  store : lines.store = queues.store.unlinked
  held : ∀ i, (queues.queue i).Holds (kind i) queues.store (lines.line i)
  disjoint : ∀ {i j}, i ≠ j → kind i = kind j → (lines.line i).Disjoint (lines.line j)
  outside : ∀ {k : QueueKind} {key : Nat} {next : Option Nat},
    queues.store.link? k key = some next → (∀ i, kind i = k → key ∉ lines.line i) → next = none

/-- An operation is carried out on both sides, with the same answer. -/
def Queues.Agrees [DecidableEq ι] (kind : ι → QueueKind) (queues : Queues ι) (lines : Lines ι)
    (op : Op ι σ) : Prop :=
  ∃ answer after later, queues.step kind op = .ok (answer, after) ∧
    lines.step op = .ok (answer, later) ∧ after.Models kind later

namespace Queues.Models

variable {i : ι} {after : Store}

/-- Nothing changes but the streams, and not their links. -/
theorem rewritten (models : queues.Models kind lines) (rewritten : queues.store.Rewritten after)
    (links : ∀ k key, after.link? k key = queues.store.link? k key) :
    Models kind ⟨after, queues.queue⟩ ⟨after.unlinked, lines.line⟩ where
  settled := models.settled.rewritten rewritten
  store := rfl
  held i := (models.held i).congr fun k _ => links (kind i) k
  disjoint := models.disjoint
  outside linked clear := models.outside (links .. ▸ linked) clear

/-- Queues of one kind may trade places along with their lists. -/
theorem relabel (models : queues.Models kind lines) (places : Equiv.Perm ι)
    (kinds : ∀ j, kind (places j) = kind j) :
    Models kind ⟨queues.store, queues.queue ∘ places⟩ ⟨lines.store, lines.line ∘ places⟩ where
  settled := models.settled
  store := models.store
  held j := by
    rw [← kinds j]
    exact models.held (places j)
  disjoint different same := by
    refine models.disjoint (places.injective.ne different) ?_
    rw [kinds, kinds, same]
  outside {k key next} linked clear := by
    refine models.outside linked fun j same => ?_
    simpa using clear (places.symm j) (by rw [← kinds, Equiv.apply_symm_apply, same])

variable [DecidableEq ι]

/-- One queue changes its line, with links of that line. -/
theorem requeue (models : queues.Models kind lines) {changed line : List Nat} {queue : Queue}
    (relinked : queues.store.Relinked (kind i) changed after) (mine : changed ⊆ lines.line i)
    (held : queue.Holds (kind i) after line)
    (come : ∀ key ∈ line, key ∉ lines.line i → ∀ j, kind j = kind i → key ∉ lines.line j)
    (gone : ∀ key ∈ lines.line i, key ∉ line → after.link? (kind i) key = some none) :
    Models kind ⟨after, Function.update queues.queue i queue⟩
      ⟨lines.store, Function.update lines.line i line⟩ := by
  have apart {j : ι} (other : j ≠ i) (same : kind j = kind i) : (lines.line j).Disjoint line := by
    intro key there here
    by_cases member : key ∈ lines.line i
    · exact models.disjoint other same there member
    · exact come key here member j same there
  refine ⟨models.settled.rewritten relinked.rewritten, ?_, fun j => ?_, ?_, ?_⟩
  · rw [relinked.unlinked_eq]
    exact models.store
  · by_cases same : j = i
    · subst same
      simpa using held
    · simp only [Function.update_of_ne same]
      refine (models.held j).relinked relinked ?_
      by_cases kinds : kind j = kind i
      · exact .inr fun key there changed => models.disjoint same kinds there (mine changed)
      · exact .inl kinds
  · intro a b different kinds
    by_cases first : a = i
    · have second : b ≠ i := fun same => different (first.trans same.symm)
      simp only [first, Function.update_self, Function.update_of_ne second]
      exact fun key here there => apart second (first ▸ kinds.symm) there here
    · by_cases second : b = i
      · simp only [second, Function.update_self, Function.update_of_ne first]
        exact apart first (second ▸ kinds)
      · simp only [Function.update_of_ne first, Function.update_of_ne second]
        exact models.disjoint different kinds
  · intro k key next linked clear
    have others (j : ι) (other : j ≠ i) (same : kind j = k) : key ∉ lines.line j := by
      simpa [other] using clear j same
    by_cases kinds : k = kind i
    · subst kinds
      have left : key ∉ line := by simpa using clear i rfl
      by_cases member : key ∈ lines.line i
      · rw [gone key member left] at linked
        exact (Option.some.inj linked).symm
      · rw [relinked.link?_eq (.inr fun changed => member (mine changed))] at linked
        refine models.outside linked fun j same => ?_
        by_cases here : j = i
        · rw [here]
          exact member
        · exact others j here same
    · rw [relinked.link?_eq (.inl kinds)] at linked
      refine models.outside linked fun j same => others j (fun here => kinds ?_) same
      rw [← same, here]

theorem push (models : queues.Models kind lines) {key : Nat}
    (permitted : lines.Permits kind (.push i key : Op ι σ)) :
    Agrees kind queues lines (.push i key : Op ι σ) := by
  obtain ⟨⟨plain, present⟩, absent⟩ := permitted
  rw [models.store, Store.get?_unlinked] at present
  obtain ⟨stream, present, -⟩ := Option.map_eq_some_iff.1 present
  have unlinked := models.outside (Store.link?_of_get? present (kind i)) absent
  obtain ⟨queue, after, pushed, held, relinked⟩ :=
    (models.held i).push present unlinked (absent i rfl)
  refine ⟨.done, _, _, ?_, rfl, models.requeue relinked (List.Subset.refl _) held ?_ ?_⟩
  · simp [Queues.step, pushed]
  · intro k member new
    rcases List.mem_append.1 member with before | last
    · exact absurd before new
    · rw [List.mem_singleton.1 last]
      exact absent
  · intro k before left
    exact absurd (List.mem_append_left _ before) left

theorem pop (models : queues.Models kind lines) : Agrees kind queues lines (.pop i : Op ι σ) := by
  have held := models.held i
  cases line : lines.line i with
  | nil =>
    rw [line] at held
    have same : Function.update lines.line i [] = lines.line := by
      rw [← line, Function.update_eq_self]
    refine ⟨.popped none, queues, lines, ?_, ?_, models⟩
    · simp [Queues.step, held.pop_nil]
    · simp [Lines.step, line, same]
  | cons key rest =>
    rw [line] at held
    obtain ⟨queue, after, popped, held', relinked, cleared⟩ := held.pop_cons
    refine ⟨.popped (some key), _, _, ?_, ?_, models.requeue relinked ?_ held' ?_ ?_⟩
    · simp [Queues.step, popped]
    · simp [Lines.step, line]
    · simp [line]
    · intro k member new
      exact absurd (line ▸ List.mem_cons_of_mem _ member) new
    · intro k before left
      rw [line] at before
      rcases List.mem_cons.1 before with rfl | later
      · exact cleared
      · exact absurd later left

theorem drain (models : queues.Models kind lines) :
    Agrees kind queues lines (.drain i : Op ι σ) := by
  obtain ⟨after, drained, relinked, cleared⟩ := (models.held i).drain
  refine ⟨.drained (lines.line i), _, _, ?_, rfl,
    models.requeue relinked (List.Subset.refl _) (Queue.holds_empty _ _) ?_ ?_⟩
  · simp [Queues.step, drained]
  · intro k member
    cases member
  · intro k before _
    exact cleared k before

/-- A queue that is moved to itself stays as it is. One that is moved to an empty one trades
places with it. -/
theorem take (models : queues.Models kind lines) {source target : ι}
    (permitted : lines.Permits kind (.take source target : Op ι σ)) :
    Agrees kind queues lines (.take source target : Op ι σ) := by
  obtain ⟨kinds, itself | empty⟩ := permitted
  · subst itself
    refine ⟨.done, queues, lines, ?_, ?_, models⟩
    · simp [Queues.step, Queue.take]
    · simp [Lines.step]
  · have held := models.held target
    rw [empty] at held
    have traded := models.relabel (Equiv.swap target source) fun j => by
      rw [Equiv.swap_apply_def]
      split
      · rename_i here
        rw [here, kinds]
      · split
        · rename_i here
          rw [here, kinds]
        · rfl
    rw [Equiv.comp_swap_eq_update, Equiv.comp_swap_eq_update, held.eq_empty, empty] at traded
    exact ⟨.done, _, _, rfl, rfl, traded⟩

theorem retain (models : queues.Models kind lines) {judge : σ → Nat → Stream → Queue.Verdict σ}
    {start : σ} (blind : BlindToLinks judge) :
    Agrees kind queues lines (.retain i judge start) := by
  have held := models.held i
  obtain ⟨kept, last, judged, plainly, unlinked, sublist, rewritten, links⟩ :=
    blind.recorded.judgeAll (fun k member => held.exists_get? member) (start, [])
  obtain ⟨kept', last', judged', queue, after, again, along, filtered⟩ :=
    held.retain (blind.recorded.keepsLink (kind i)) (start, []) held.length_le
  rw [plainly] at again
  cases again
  have middle := models.rewritten rewritten links
  refine ⟨.judged last.1 last.2, _, _, ?_, ?_,
    middle.requeue filtered.relinked (List.Subset.refl _) filtered.held ?_ filtered.cleared⟩
  · simp [Queues.step, along]
  · simp [Lines.step, models.store, unlinked]
  · intro k member new
    exact absurd (sublist.subset member) new

theorem look (models : queues.Models kind lines) : Agrees kind queues lines (.look i : Op ι σ) := by
  have held := models.held i
  have empty : (queues.queue i).isEmpty = (lines.line i).isEmpty := by
    have head := congrArg Option.isNone held.head
    rw [Queue.head?, Option.isNone_map] at head
    rw [Queue.isEmpty, head]
    cases lines.line i <;> rfl
  refine ⟨.ends (lines.line i).head? (lines.line i).getLast? (lines.line i).isEmpty, queues, lines,
    ?_, rfl, models⟩
  simp [Queues.step, held.head, held.tail, empty]

/-- An insertion under an unbound id succeeds on both sides, and one under a bound id is
refused on both. -/
theorem insert (models : queues.Models kind lines) {id : StreamId} {stream : Stream}
    (unlinked : stream.links = .replicate none) :
    Agrees kind queues lines (.insert id stream : Op ι σ) ∨
      queues.step kind (.insert id stream : Op ι σ) = .error .idInUse ∧
        lines.step (.insert id stream : Op ι σ) = .error .idInUse ∧
        lines.store.contains id = true := by
  have free (k : QueueKind) : stream.next k = none := by
    rw [Stream.next, unlinked, PerQueue.get_replicate]
  cases bound : queues.store.key? id with
  | none =>
    left
    obtain ⟨key, after, done, plainly, inserted⟩ := models.settled.insert_unlinked bound stream
    rw [Stream.unlinked_eq_self free] at plainly
    refine ⟨.inserted key, ⟨after, queues.queue⟩, ⟨after.unlinked, lines.line⟩, ?_, ?_,
      inserted.settled, rfl, fun i => (models.held i).inserted inserted, models.disjoint, ?_⟩
    · simp [Queues.step, done]
    · simp [Lines.step, models.store, plainly]
    · intro k other next linked clear
      rw [inserted.link?] at linked
      split at linked
      · rw [← Option.some.inj linked, free]
      · exact models.outside linked clear
  | some key =>
    have refused := models.settled.insert_of_bound bound stream
    have refusedPlain : lines.store.insert id stream = .error .idInUse := by
      rw [models.store]
      exact (models.settled.rewritten (Store.rewritten_unlinked _)).insert_of_bound bound stream
    have known : lines.store.contains id = true := by
      rw [models.store]
      exact (Store.contains_eq_isSome_key? _ id).trans (congrArg Option.isSome bound)
    exact .inr ⟨by simp [Queues.step, refused], by simp [Lines.step, refusedPlain], known⟩

/-- A stream that is in no list leaves the store as it came. -/
theorem remove (models : queues.Models kind lines) {id : StreamId}
    (permitted : lines.Permits kind (.remove id : Op ι σ)) :
    Agrees kind queues lines (.remove id : Op ι σ) := by
  cases bound : queues.store.key? id with
  | none =>
    have unbound : lines.store.key? id = none := by
      rw [models.store]
      exact bound
    refine ⟨.removed none, queues, lines, ?_, ?_, models⟩
    · simp [Queues.step, Store.remove_of_unbound bound]
    · simp [Lines.step, Store.remove_of_unbound unbound]
  | some key =>
    have absent : ∀ i, key ∉ lines.line i := by
      apply permitted key
      rw [models.store]
      exact bound
    obtain ⟨stream, present⟩ := models.settled.exists_get? bound
    have free (k : QueueKind) : stream.next k = none :=
      models.outside (Store.link?_of_get? present k) fun i _ => absent i
    obtain ⟨after, done, plainly, removed⟩ := models.settled.remove_unlinked bound present
    rw [Stream.unlinked_eq_self free] at plainly
    refine ⟨.removed (some stream), ⟨after, queues.queue⟩, ⟨after.unlinked, lines.line⟩, ?_, ?_,
      removed.settled, rfl, fun i => (models.held i).removed removed (absent i), models.disjoint,
      ?_⟩
    · simp [Queues.step, done]
    · simp [Lines.step, models.store, plainly]
    · intro k other next linked clear
      rw [removed.link?] at linked
      split at linked
      · cases linked
      · exact models.outside linked clear

/-- Every operation that the discipline permits is carried out on both sides alike. -/
theorem step (models : queues.Models kind lines) {op : Op ι σ} (permitted : lines.Permits kind op) :
    Agrees kind queues lines op ∨
      queues.step kind op = .error .idInUse ∧ lines.step op = .error .idInUse ∧
        ∃ id stream, op = .insert id stream ∧ lines.store.contains id = true := by
  cases op with
  | push i key => exact .inl (models.push permitted)
  | pop i => exact .inl models.pop
  | drain i => exact .inl models.drain
  | take source target => exact .inl (models.take permitted)
  | retain i judge start => exact .inl (models.retain permitted)
  | look i => exact .inl models.look
  | insert id stream =>
    rcases models.insert permitted with agrees | ⟨linked, plain, known⟩
    · exact .inl agrees
    · exact .inr ⟨linked, plain, id, stream, rfl, known⟩
  | remove id => exact .inl (models.remove permitted)

theorem run (models : queues.Models kind lines) {ops : List (Op ι σ)}
    (allowed : lines.Allowed kind ops) :
    queues.run kind ops = lines.run ops ∧
      ((∃ answers, queues.run kind ops = .ok answers) ∨
        queues.run kind ops = .error .idInUse ∧ lines.Clashes ops) := by
  induction ops generalizing queues lines with
  | nil => exact ⟨rfl, .inl ⟨[], rfl⟩⟩
  | cons op rest ih =>
    obtain ⟨permitted, later⟩ := allowed
    rcases models.step permitted with ⟨answer, queues', lines', linked, plain, models'⟩ |
      ⟨linked, plain, id, stream, inserts, known⟩
    · rw [plain] at later
      obtain ⟨same, outcome⟩ := ih models' later
      simp only [Queues.run, Lines.run, linked, plain, Checked.ok_bind]
      refine ⟨by rw [same], ?_⟩
      rcases outcome with ⟨answers, done⟩ | ⟨refused, clashes⟩
      · exact .inl ⟨answer :: answers, by rw [done]; rfl⟩
      · refine .inr ⟨by rw [refused]; rfl, .inr ?_⟩
        rw [plain]
        exact clashes
    · simp only [Queues.run, Lines.run, linked, plain, Checked.error_bind, true_and]
      exact .inr (.inl ⟨id, stream, inserts, known⟩)

end Queues.Models

/-- From a store that was just made and empty queues on, a program that keeps the discipline
sees what it would see of plain lists. It ends early only where it inserts a stream under
an id that is bound. -/
theorem Store.Fresh.run_eq_lines [DecidableEq ι] {store : Store} (fresh : store.Fresh)
    {ops : List (Op ι σ)} (allowed : Lines.Allowed kind ⟨store, fun _ => []⟩ ops) :
    Queues.run kind ⟨store, fun _ => .empty⟩ ops = Lines.run ⟨store, fun _ => []⟩ ops ∧
      ((∃ answers, Queues.run kind ⟨store, fun _ => .empty⟩ ops = .ok answers) ∨
        Queues.run kind ⟨store, fun _ => .empty⟩ ops = .error .idInUse ∧
          Lines.Clashes ⟨store, fun _ => []⟩ ops) := by
  refine Queues.Models.run ⟨fresh.settled, ?_, fun i => Queue.holds_empty _ _, fun _ _ => ?_, ?_⟩
    allowed
  · obtain ⟨capacity, rfl⟩ := fresh.exists_capacity
    simp [Store.unlinked, Slab.map]
  · exact List.disjoint_nil_left _
  · intro k key next linked _
    rw [Store.link?, fresh.get?] at linked
    cases linked

/-- Two streams move from one queue to another, and the filter drops the first. -/
theorem run_eq_lines_of_two_streams :
    Store.Fresh .empty ∧
      Queues.run (fun _ : Bool => .send) ⟨.empty, fun _ => .empty⟩
        [.insert (.ofRaw 1) {}, .insert (.ofRaw 3) {}, .push true 0, .push true 1,
          .take true false, .look false,
          .retain false (fun asked key stream => ⟨key != 0, stream, asked + 1⟩) 0,
          .remove (.ofRaw 1), .drain false] =
        .ok [.inserted 0, .inserted 1, .done, .done, .done, .ends (some 0) (some 1) false,
          .judged 2 [0, 1], .removed (some {}), .drained [1]] := by
  refine ⟨.empty, (Store.Fresh.run_eq_lines .empty ?_).1.trans rfl⟩
  refine ⟨rfl, rfl, ⟨⟨_, rfl⟩, by decide⟩, ⟨⟨_, rfl⟩, by decide⟩, ⟨rfl, .inr rfl⟩, trivial,
    fun _ _ _ _ => rfl, ?_, trivial, trivial⟩
  intro key bound
  cases bound
  decide

end StreamMux
