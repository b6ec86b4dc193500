import StreamMux.Proofs.Connection.Refines

/-!
# What holds in every state that calls can reach

A connection that was just made agrees with a plain one, so no sequence of calls on it
meets a fault (`Connection.Fresh.run_ne_error`), and after each sequence every queue is
exactly the line of the streams that are flagged for it
(`Connection.Fresh.queuesExact_of_run`).
-/

namespace StreamMux.Connection

/-- A connection that was just made, over a store that was just made. -/
inductive Fresh : Connection → Prop where
  | mk (config : Config) {store : Store} (made : store.Fresh) : Fresh { config, store }

/-- Each queue is the line of the live streams that are flagged for it, linked one to the next
from its head to its tail. The other streams have no link of its kind. -/
def QueuesExact (conn : Connection) : Prop :=
  ∀ kind, ∃ keys, (conn.queues.get kind).Owns kind conn.store keys ∧
    ∀ key, key ∈ keys ↔ ∃ id stream, conn.store.key? id = some key ∧
      conn.store.get? key = some stream ∧ stream.queued.get kind = true

/-- The streams of `line` wait in the queue, in this order. -/
def HasLine (conn : Connection) (kind : QueueKind) (line : List StreamId) : Prop :=
  ∃ keys, conn.store.Names line keys ∧ (conn.queues.get kind).Owns kind conn.store keys

variable {conn : Connection} {plain : Plain}

theorem fresh_ofConfig {config : Config} (made : ofConfig config = .ok conn) : conn.Fresh := by
  unfold ofConfig at made
  cases reserved : Store.withCapacity config.initialCapacity with
  | error reason =>
    rw [reserved] at made
    cases made
  | ok store =>
    rw [reserved] at made
    cases made
    exact .mk config (.withCapacity reserved)

/-- A connection that was just made has no streams and empty queues. -/
theorem Fresh.models_fresh (fresh : conn.Fresh) : conn.Models { config := conn.config } := by
  obtain ⟨config, made⟩ := fresh
  refine ⟨rfl, ⟨made.settled, fun id => ?_, fun kind => ⟨[], ?_, ?_⟩⟩,
    Plain.sound_fresh config, fun bound => ?_, ?_, rfl, rfl, rfl⟩
  · rw [Store.lookup_unlinked, made.key?, Option.bind_none]
  · rw [PerQueue.get_replicate]
    exact .nil
  · rw [PerQueue.get_replicate]
    refine (Queue.holds_empty kind _).owns fun k next _ linked => ?_
    rw [Store.link?, made.get?] at linked
    cases linked
  · rw [made.key?] at bound
    cases bound
  · obtain ⟨capacity, rfl⟩ := made.exists_capacity
    rfl

theorem Fresh.models (fresh : conn.Fresh) : ∃ plain, conn.Models plain := ⟨_, fresh.models_fresh⟩

theorem Fresh.lookup (fresh : conn.Fresh) (id : StreamId) : conn.store.lookup id = none := by
  obtain ⟨config, made⟩ := fresh
  rw [Store.lookup, made.key?, Option.bind_none]

/-- The streams of a connection are those of the plain one, but for their links. -/
theorem Models.streams_eq (models : conn.Models plain) (id : StreamId) :
    plain.streams id = (conn.store.lookup id).map Stream.unlinked := by
  rw [models.tracks.streams, Store.lookup_unlinked, Store.lookup]
  cases conn.store.key? id with
  | none => rfl
  | some key => rw [Option.bind_some, Option.bind_some, Store.get?_unlinked]

/-- The ids that are bound are those that have a stream. -/
theorem Models.contains_eq (models : conn.Models plain) (id : StreamId) :
    conn.store.contains id = (plain.streams id).isSome := by
  rw [Store.contains_eq_isSome_key?, models.tracks.key?_isSome]

theorem Models.hasLine (models : conn.Models plain) (kind : QueueKind) :
    conn.HasLine kind (plain.lines.get kind) := models.tracks.owns kind

/-- The line of a queue in a plain connection names the flagged streams. -/
theorem Models.queuesExact (models : conn.Models plain) : conn.QueuesExact := by
  intro kind
  obtain ⟨keys, names, owns⟩ := models.tracks.owns kind
  refine ⟨keys, owns, fun key => ⟨fun member => ?_, ?_⟩⟩
  · obtain ⟨id, listed, bound⟩ := names.exists_id member
    obtain ⟨stream, present⟩ := owns.exists_get? member
    exact ⟨id, stream, bound, present, (models.queued_iff bound present kind).2 listed⟩
  · rintro ⟨id, stream, bound, present, queued⟩
    rw [models.tracks.settled.mem_iff names bound, ← models.queued_iff bound present, queued]

/-- After any calls, every queue is exactly the line of the streams flagged for it. -/
theorem Fresh.queuesExact_of_run (fresh : conn.Fresh) (calls : List Call) :
    ∃ after events, conn.run calls = .ok (after, events) ∧ after.QueuesExact := by
  obtain ⟨plain, models⟩ := fresh.models
  obtain ⟨after, ran, models'⟩ := models.run calls
  exact ⟨after, _, ran, models'.queuesExact⟩

/-- The queues of two streams, one of which was reset before its payload was written. -/
theorem queuesExact_of_two_streams :
    Fresh { config := .defaults } ∧
      ∃ after events,
        run { config := .defaults } [.accept (.ofRaw 1), .send (.ofRaw 1) (.filled 3 0),
          .accept (.ofRaw 3), .send (.ofRaw 3) (.filled 5 0), .reset (.ofRaw 1) 8] =
            .ok (after, events) ∧ after.QueuesExact :=
  ⟨.mk .defaults .empty, Fresh.queuesExact_of_run (.mk .defaults .empty) _⟩

/-- After any calls, the next call meets no fault, and the table of slots names every live
stream. -/
theorem Fresh.run_ne_error (fresh : conn.Fresh) (calls : List Call) :
    ∃ after events, conn.run calls = .ok (after, events) ∧
      (∀ call fault, after.step call ≠ .error fault) ∧
      ∀ id key, after.store.key? id = some key → after.idOf key = .ok id := by
  obtain ⟨plain, models⟩ := fresh.models
  obtain ⟨after, ran, models'⟩ := models.run calls
  refine ⟨after, _, ran, fun call fault failed => ?_, fun id key bound => ?_⟩
  · obtain ⟨answer, next, stepped, -⟩ := models'.step call
    rw [stepped] at failed
    cases failed
  · exact idOf_eq_ok_iff.2 (models'.named bound)

/-- A stream is flushed away after its reset, and its slot is used again. -/
theorem run_ne_error_after_reclaim :
    Fresh { config := .defaults } ∧
      ∃ after events,
        run { config := .defaults } [.accept (.ofRaw 1), .send (.ofRaw 1) (.filled 3 0),
          .reset (.ofRaw 1) 8, .flush, .accept (.ofRaw 5), .flush] = .ok (after, events) ∧
        (∀ call fault, after.step call ≠ .error fault) ∧
        ∀ id key, after.store.key? id = some key → after.idOf key = .ok id :=
  ⟨.mk .defaults .empty, Fresh.run_ne_error (.mk .defaults .empty) _⟩

end StreamMux.Connection
