import StreamMux.Proofs.Connection.View

/-!
# Streams are isolated from each other

What is seen of a stream after a run is settled by the calls that name it, the flushes among them
and the answers to the calls that ask for it. Two runs that have these in common leave the stream
alike and report the same about it, whatever they do to other streams and in whichever order
(`Connection.Fresh.run_isolated`).
-/

namespace StreamMux.Connection

variable {conn other : Connection} {id : StreamId} {first second : List Call}

/-- After any calls on a connection that was just made, a stream is what it is on its own. -/
theorem Fresh.view_run (fresh : conn.Fresh) (calls : List Call) (id : StreamId) :
    ∃ after events answers, conn.run calls = .ok (after, events) ∧
      conn.acceptances id calls = .ok answers ∧
      after.store.contains id = (after.store.lookup id).isSome ∧
      ((after.store.lookup id).map Stream.unlinked, events.filter (Event.about id)) =
        Alone.run conn.config.initialWindowSize id (calls.filter (Call.concerns id)) answers
          none := by
  have models := fresh.models_fresh
  obtain ⟨after, ran, models'⟩ := models.run calls
  obtain ⟨answers, accepted, shown⟩ := models.view_run (Plain.orderly_fresh conn.config) calls id
  refine ⟨after, _, answers, ran, accepted, ?_, ?_⟩
  · rw [models'.contains_eq, models'.streams_eq, Option.isSome_map]
  · rw [← models'.streams_eq]
    exact shown

/-- Two connections with the same settings, the same calls on a stream and flushes between them,
and the same answers where the stream is asked for, leave the stream alike but for its links and
report the same about it. -/
theorem Fresh.run_isolated (fresh : conn.Fresh) (fresh' : other.Fresh)
    (config : conn.config = other.config)
    (calls : first.filter (Call.concerns id) = second.filter (Call.concerns id))
    (answers : conn.acceptances id first = other.acceptances id second) :
    ∃ after events after' events',
      conn.run first = .ok (after, events) ∧ other.run second = .ok (after', events') ∧
      after.store.contains id = after'.store.contains id ∧
      (after.store.lookup id).map Stream.unlinked =
        (after'.store.lookup id).map Stream.unlinked ∧
      events.filter (Event.about id) = events'.filter (Event.about id) := by
  obtain ⟨after, events, yes, ran, accepted, contains, shown⟩ := fresh.view_run first id
  obtain ⟨after', events', yes', ran', accepted', contains', shown'⟩ := fresh'.view_run second id
  rw [accepted, accepted'] at answers
  cases answers
  rw [config, calls, ← shown'] at shown
  obtain ⟨stream, reported⟩ := Prod.mk.inj shown
  have present := congrArg Option.isSome stream
  rw [Option.isSome_map, Option.isSome_map] at present
  exact ⟨after, events, after', events', ran, ran', by rw [contains, contains', present], stream,
    reported⟩

def undisturbed : List Call :=
  [.accept (.ofRaw 1), .send (.ofRaw 1) (.filled 6 0), .send (.ofRaw 1) (.filled 6 1), .flush,
    .consume (.ofRaw 1) 8, .grant (.ofRaw 1) 5, .reset (.ofRaw 1) 8]

/-- The stream of id 1 in a later slot, behind other streams in every queue. -/
def disturbed : List Call :=
  [.accept (.ofRaw 3), .send (.ofRaw 3) (.filled 1 0), .accept (.ofRaw 5), .accept (.ofRaw 1),
    .send (.ofRaw 5) (.filled 20 0), .send (.ofRaw 1) (.filled 6 0), .reset (.ofRaw 3) 8,
    .send (.ofRaw 1) (.filled 6 1), .flush, .accept (.ofRaw 7), .consume (.ofRaw 5) 9,
    .consume (.ofRaw 1) 8, .reset (.ofRaw 5) 8, .grant (.ofRaw 1) 5, .census, .reset (.ofRaw 1) 8]

/-- The stream is accepted, blocked, granted credit and reset in both runs, but not in one slot. -/
theorem run_isolated_disturbed :
    Fresh { config := { initialWindowSize := 10 } } ∧
      undisturbed.filter (Call.concerns (.ofRaw 1)) = disturbed.filter (Call.concerns (.ofRaw 1)) ∧
      acceptances { config := { initialWindowSize := 10 } } (.ofRaw 1) undisturbed =
        acceptances { config := { initialWindowSize := 10 } } (.ofRaw 1) disturbed ∧
      ∃ after events after' events',
        run { config := { initialWindowSize := 10 } } undisturbed = .ok (after, events) ∧
        run { config := { initialWindowSize := 10 } } disturbed = .ok (after', events') ∧
        after.store.contains (.ofRaw 1) = after'.store.contains (.ofRaw 1) ∧
        (after.store.lookup (.ofRaw 1)).map Stream.unlinked =
          (after'.store.lookup (.ofRaw 1)).map Stream.unlinked ∧
        events.filter (Event.about (.ofRaw 1)) = events'.filter (Event.about (.ofRaw 1)) ∧
        after.store.key? (.ofRaw 1) = some 0 ∧ after'.store.key? (.ofRaw 1) = some 2 := by
  have fresh : Fresh { config := { initialWindowSize := 10 } } := .mk _ .empty
  have calls : undisturbed.filter (Call.concerns (.ofRaw 1)) =
      disturbed.filter (Call.concerns (.ofRaw 1)) := rfl
  have answers : acceptances { config := { initialWindowSize := 10 } } (.ofRaw 1) undisturbed =
      acceptances { config := { initialWindowSize := 10 } } (.ofRaw 1) disturbed := by
    decide +kernel
  obtain ⟨after, events, after', events', ran, ran', contains, stream, reported⟩ :=
    fresh.run_isolated fresh rfl calls answers
  have slot : ((run { config := { initialWindowSize := 10 } } undisturbed).map
      fun result => result.1.store.key? (.ofRaw 1)) = .ok (some 0) := by decide +kernel
  have slot' : ((run { config := { initialWindowSize := 10 } } disturbed).map
      fun result => result.1.store.key? (.ofRaw 1)) = .ok (some 2) := by decide +kernel
  rw [ran] at slot
  rw [ran'] at slot'
  exact ⟨fresh, calls, answers, after, events, after', events', ran, ran', contains, stream,
    reported, Except.ok.inj slot, Except.ok.inj slot'⟩

end StreamMux.Connection
