import StreamMux.Proofs.Connection.Orderly
import StreamMux.Proofs.Connection.Reachable

/-!
# What a connection shows of one stream

Of one stream a connection shows the stream itself, the answers to the calls that ask for it, and
the events that name it. Whatever else the connection does, it shows what the stream does on its
own: in a call (`Plain.Orderly.step_eq`, `Plain.step_apart`) and in a run (`Models.view_run`).
-/

namespace StreamMux.Connection

namespace Plain

variable {plain : Plain} {id : StreamId} {call : Call}

/-- What a flush reports about a stream. -/
theorem Orderly.flush_about (orderly : plain.Orderly) (sound : plain.Sound) (id : StreamId) :
    plain.flush.2.filter (Event.about id) =
      (plain.streams id).elim [] (Stream.flushEvents id) := by
  have closing := orderly.nodup_closing sound
  have finished : plain.finished.Nodup := sound.nodup_select ..
  have waiting : plain.waiting.Nodup := sound.nodup_select ..
  rw [orderly.flush_events sound]
  simp only [List.filter_append]
  rw [filter_map_about orderly.distinct fun _ => rfl, filter_map_about closing fun _ => rfl,
    filter_map_about (sound.nodup_select ..) fun _ => rfl, filter_map_about finished fun _ => rfl,
    filter_map_about waiting fun _ => rfl, filter_map_about closing fun _ => rfl]
  have cancelled := orderly.cancelled id
  cases found : plain.streams id with
  | none =>
    have idle : id ∉ plain.closing := by
      intro member
      obtain ⟨stream, present, -⟩ := orderly.exists_closed sound member
      rw [found] at present
      cases present
    simp [cancelled, Plain.finished, Plain.waiting, sound.mem_select, found, idle]
  | some stream =>
    simp only [cancelled, Plain.finished, Plain.waiting, sound.mem_select, found, Option.any_some,
      orderly.mem_closing sound found, PerQueue.get, Option.elim_some, Stream.flushEvents,
      Bool.and_assoc]

/-- Of the events of a call, all or none are about a stream. -/
theorem filter_events (initial : Int32) (id k : StreamId) (call : Call) (stream : Stream) :
    (stream.events initial k call).filter (Event.about id) =
      if k = id then stream.events initial k call else [] := by
  split
  · rename_i same
    rw [List.filter_eq_self]
    intro event reported
    rw [Event.about, Stream.stream_of_mem_events reported, same]
    exact BEq.rfl
  · rename_i apart
    rw [List.filter_eq_nil_iff]
    intro event reported
    rw [Event.about, Stream.stream_of_mem_events reported]
    exact fun same => apart (eq_of_beq same)

/-- A call that names a stream, or a flush, does to it what the stream does on its own. -/
theorem Orderly.step_eq (orderly : plain.Orderly) (sound : plain.Sound)
    (concerned : call.concerns id = true) :
    ((plain.step call).1.streams id, (plain.step call).2.filter (Event.about id)) =
      Alone.step plain.config.initialWindowSize id (plain.accept id).1 call (plain.streams id) := by
  rcases Call.concerns_iff.1 concerned with target | rfl
  · cases asked : Alone.asks call with
    | true =>
      obtain rfl := Alone.eq_accept target asked
      simp only [Plain.step, events_accept, streams_accept, true_and]
      cases accepted : (plain.accept id).1 with
      | true => simp [Alone.step, streams_of_accept accepted, Event.about, Event.opened,
          Plain.openedStream]
      | false => cases plain.streams id <;> rfl
    | false =>
      obtain ⟨streams, events⟩ := plain.step_named target asked
      rw [streams, if_pos rfl, events]
      cases plain.streams id with
      | none => rw [Alone.step_none asked]; rfl
      | some stream => rw [Option.elim_some, filter_events, if_pos rfl]; rfl
  · have streams : (plain.step .flush).1.streams id = _ := orderly.streams_flush sound id
    have events : (plain.step .flush).2.filter (Event.about id) = _ := orderly.flush_about sound id
    rw [streams, events]
    cases plain.streams id with
    | none => rfl
    | some stream => rfl

/-- Other calls do not concern the stream. -/
theorem step_apart (plain : Plain) (unconcerned : call.concerns id = false) :
    (plain.step call).1.streams id = plain.streams id ∧
      (plain.step call).2.filter (Event.about id) = [] := by
  have others : ¬(call.target? = some id ∨ call = .flush) := by
    rw [← Call.concerns_iff, unconcerned]
    exact Bool.false_ne_true
  cases target : call.target? with
  | none =>
    cases call with
    | census => exact ⟨rfl, rfl⟩
    | flush => exact absurd (.inr rfl) others
    | accept named | send named chunk | reset named code | consume named count
    | grant named increment => cases target
  | some k =>
    have apart : id ≠ k := by
      rintro rfl
      exact others (.inl target)
    cases asked : Alone.asks call with
    | true =>
      obtain rfl := Alone.eq_accept target asked
      simp only [step, streams_accept, events_accept, apart, false_and, if_false, true_and]
      split
      · simp [Event.about, Event.opened, Ne.symm apart]
      · rfl
    | false =>
      obtain ⟨streams, events⟩ := plain.step_named target asked
      rw [streams, if_neg apart, events]
      refine ⟨rfl, ?_⟩
      cases plain.streams k with
      | none => rfl
      | some stream => rw [Option.elim_some, filter_events, if_neg (Ne.symm apart)]

end Plain

/-- The answers to the calls that ask for the stream of `id`. -/
def acceptances (conn : Connection) (id : StreamId) : List Call → Checked (List Answer)
  | [] => return []
  | call :: rest => do
    let (answer, next, _) ← conn.step call
    let later ← next.acceptances id rest
    return if call = .accept id then answer :: later else later

variable {conn : Connection} {plain : Plain}

/-- Asking for a stream is answered as the plain connection answers it. -/
theorem Models.step_accept (models : conn.Models plain) (id : StreamId) :
    ∃ next, conn.step (.accept id) =
        .ok (.accepted (plain.accept id).1, next, (plain.step (.accept id)).2) ∧
      next.Models (plain.step (.accept id)).1 := by
  obtain ⟨next, accepted, models'⟩ := models.accept id
  exact ⟨next, by simp [Connection.step, accepted, Plain.step], models'⟩

/-- After any calls the streams that were reset are in order. -/
theorem Models.orderly_run (models : conn.Models plain) (orderly : plain.Orderly)
    (calls : List Call) : (plain.run calls).1.Orderly := by
  induction calls generalizing conn plain with
  | nil => exact orderly
  | cons call rest ih =>
    obtain ⟨answer, middle, stepped, models'⟩ := models.step call
    exact ih models' (orderly.step models.sound call)

/-- A call shows of a stream what the call does to the stream on its own, if it concerns it. -/
theorem Models.view_step (models : conn.Models plain) (orderly : plain.Orderly) (id : StreamId)
    {call : Call} {answer : Answer} {next : Connection} {events : List Event}
    (stepped : conn.step call = .ok (answer, next, events)) (rest : List Call)
    (answers : List Answer) :
    Alone.run plain.config.initialWindowSize id ((call :: rest).filter (Call.concerns id))
        (if call = .accept id then answer :: answers else answers) (plain.streams id) =
      let later := Alone.run plain.config.initialWindowSize id (rest.filter (Call.concerns id))
        answers ((plain.step call).1.streams id)
      (later.1, (plain.step call).2.filter (Event.about id) ++ later.2) := by
  cases concerned : call.concerns id with
  | false =>
    obtain ⟨same, silent⟩ := plain.step_apart concerned
    have other : call ≠ .accept id := by
      rintro rfl
      simp [Call.concerns, Call.target?] at concerned
    rw [List.filter_cons_of_neg (by rw [concerned]; exact Bool.false_ne_true), if_neg other, same,
      silent]
    rfl
  | true =>
    have after := congrArg Prod.fst (orderly.step_eq models.sound concerned)
    have reported := congrArg Prod.snd (orderly.step_eq models.sound concerned)
    dsimp only at after reported
    rw [List.filter_cons_of_pos concerned, after, reported]
    cases asks : Alone.asks call with
    | true =>
      have target : call.target? = some id := by
        refine (Call.concerns_iff.1 concerned).resolve_right ?_
        rintro rfl
        cases asks
      obtain rfl := Alone.eq_accept target asks
      obtain ⟨next', accepted, -⟩ := models.step_accept id
      obtain ⟨rfl, -⟩ := Prod.mk.inj (Except.ok.inj (stepped.symm.trans accepted))
      rw [if_pos rfl, Alone.run_accept]
    | false =>
      have other : call ≠ .accept id := by
        rintro rfl
        cases asks
      rw [if_neg other, Alone.run_of_not_asks asks _ id _ (plain.accept id).1]

/-- Through any calls a connection shows of a stream what the stream does on its own, with the
answers that it was given. -/
theorem Models.view_run (models : conn.Models plain) (orderly : plain.Orderly) (calls : List Call)
    (id : StreamId) :
    ∃ answers, conn.acceptances id calls = .ok answers ∧
      ((plain.run calls).1.streams id, (plain.run calls).2.filter (Event.about id)) =
        Alone.run plain.config.initialWindowSize id (calls.filter (Call.concerns id)) answers
          (plain.streams id) := by
  induction calls generalizing conn plain with
  | nil => exact ⟨[], rfl, rfl⟩
  | cons call rest ih =>
    obtain ⟨answer, middle, stepped, models'⟩ := models.step call
    obtain ⟨answers, accepted, shown⟩ := ih models' (orderly.step models.sound call)
    rw [plain.config_step] at shown
    refine ⟨if call = .accept id then answer :: answers else answers, ?_, ?_⟩
    · rw [acceptances, stepped, Checked.ok_bind]
      dsimp only
      rw [accepted]
      rfl
    · rw [models.view_step orderly id stepped, ← shown, Plain.run]
      dsimp only
      rw [List.filter_append]

end StreamMux.Connection
