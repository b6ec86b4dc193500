import Mathlib.Data.List.Nodup
import StreamMux.Proofs.Connection.Plain

/-!
# Flags and lists agree

A connection without links records twice which streams are in a queue: by the list of the
queue and by a flag in each stream. The two agree at the start (`Plain.sound_fresh`). Calls are
made of changes of one stream, which leave its flags alone, and of moves of streams into a
list or out of it together with their flags (`Plain.Sound.relist`).
-/

namespace StreamMux.Connection.Plain

variable {plain : Plain} {id : StreamId} {stream : Stream} {kind : QueueKind}

/-- The flags of a stream name the lists that it is in, no list names a stream twice or
names one that is gone, and a stream is in one of the three states that calls can
bring it to. -/
structure Sound (plain : Plain) : Prop where
  flagged : ∀ {id stream}, plain.streams id = some stream →
    ∀ kind, stream.queued.get kind = true ↔ id ∈ plain.lines.get kind
  present : ∀ {kind id}, id ∈ plain.lines.get kind → ∃ stream, plain.streams id = some stream
  distinct : ∀ kind, (plain.lines.get kind).Nodup
  states : ∀ {id stream}, plain.streams id = some stream →
    stream.state = .opened ∨ stream.state = .halfClosedLocal ∨ stream.state = .closed

theorem sound_fresh (config : Config) : Sound { config } where
  flagged := nofun
  present member := by
    rw [PerQueue.get_replicate] at member
    cases member
  distinct kind := by
    rw [PerQueue.get_replicate]
    exact List.nodup_nil
  states := nofun

/-- Nothing but streams and lists matters. -/
theorem Sound.of_eq {after : Plain} (sound : plain.Sound) (streams : after.streams = plain.streams)
    (lines : after.lines = plain.lines) : after.Sound := by
  obtain ⟨flagged, present, distinct, states⟩ := sound
  rw [← streams, ← lines] at flagged present
  rw [← lines] at distinct
  rw [← streams] at states
  exact ⟨flagged, present, distinct, states⟩

theorem Sound.look (sound : plain.Sound) (id : StreamId) : (plain.look id).Sound :=
  ⟨sound.flagged, sound.present, sound.distinct, sound.states⟩

/-- A stream that records to be in no queue is in no list. -/
theorem Sound.outside (sound : plain.Sound) (bound : plain.streams id = some stream)
    (unqueued : stream.isQueued = false) (kind : QueueKind) : id ∉ plain.lines.get kind := by
  rw [← sound.flagged bound kind]
  simp only [Stream.isQueued, PerQueue.toList, List.any_cons, List.any_nil, id_eq, Bool.or_false,
    Bool.or_eq_false_iff] at unqueued
  obtain ⟨send, reset, windowUpdate⟩ := unqueued
  cases kind <;> simp [PerQueue.get, send, reset, windowUpdate]

/-- A stream that records to be in no queue may come under an id without a stream. -/
theorem Sound.open (sound : plain.Sound) (absent : plain.streams id = none) (stream : Stream)
    (queued : stream.queued = .replicate false) (state : stream.state = .opened) :
    (plain.set id stream).Sound := by
  have outside (kind : QueueKind) : id ∉ plain.lines.get kind := by
    intro member
    obtain ⟨old, found⟩ := sound.present member
    rw [absent] at found
    cases found
  refine ⟨?_, ?_, sound.distinct, ?_⟩
  · intro k new found kind
    rw [streams_set] at found
    split at found
    · rename_i same
      cases found
      simp [queued, same, outside kind]
    · exact sound.flagged found kind
  · intro kind k member
    rw [streams_set]
    split
    · exact ⟨stream, rfl⟩
    · exact sound.present member
  · intro k new found
    rw [streams_set] at found
    split at found
    · cases found
      exact .inl state
    · exact sound.states found

/-- A stream may change as long as its flags stay and its state is a possible one. -/
theorem Sound.set (sound : plain.Sound) (bound : plain.streams id = some stream) (new : Stream)
    (queued : new.queued = stream.queued)
    (state : new.state = .opened ∨ new.state = .halfClosedLocal ∨ new.state = .closed) :
    (plain.set id new).Sound where
  flagged {k other} found kind := by
    rw [streams_set] at found
    split at found
    · rename_i same
      cases found
      rw [queued, same]
      exact sound.flagged bound kind
    · exact sound.flagged found kind
  present {kind k} member := by
    rw [streams_set]
    split
    · exact ⟨new, rfl⟩
    · exact sound.present member
  distinct := sound.distinct
  states {k other} found := by
    rw [streams_set] at found
    split at found
    · cases found
      exact state
    · exact sound.states found

/-- A stream that is in no list may go. -/
theorem Sound.erase (sound : plain.Sound) (outside : ∀ kind, id ∉ plain.lines.get kind) :
    (plain.erase id).Sound := by
  refine ⟨?_, ?_, sound.distinct, ?_⟩
  · intro k stream found
    rw [streams_erase] at found
    split at found
    · cases found
    · exact sound.flagged found
  · intro kind k member
    have apart : k ≠ id := by
      rintro rfl
      exact outside kind member
    rw [streams_erase, if_neg apart]
    exact sound.present member
  · intro k stream found
    rw [streams_erase] at found
    split at found
    · cases found
    · exact sound.states found

/-- Some streams may move into or out of one list, together with their flags. -/
theorem Sound.relist (sound : plain.Sound) {ids line : List StreamId} {change : Stream → Stream}
    (distinct : line.Nodup)
    (present : ∀ k ∈ line, ∃ stream, plain.streams k = some stream)
    (outside : ∀ k, k ∉ ids → (k ∈ line ↔ k ∈ plain.lines.get kind))
    (flags : ∀ k ∈ ids, ∀ stream, plain.streams k = some stream →
      ((change stream).queued.get kind = true ↔ k ∈ line))
    (others : ∀ other stream, other ≠ kind →
      (change stream).queued.get other = stream.queued.get other)
    (states : ∀ stream : Stream,
      (change stream).state = .halfClosedLocal ∨ (change stream).state = stream.state) :
    ((plain.changeAll ids change).setLine kind line).Sound where
  flagged {k new} found other := by
    rw [streams_setLine, streams_changeAll] at found
    rw [lines_setLine]
    split at found
    · rename_i moved
      obtain ⟨old, before, rfl⟩ := Option.map_eq_some_iff.1 found
      by_cases same : other = kind
      · rw [if_pos same, same]
        exact flags k moved old before
      · rw [if_neg same, others other old same]
        exact sound.flagged before other
    · rename_i stays
      by_cases same : other = kind
      · rw [if_pos same, outside k stays, same]
        exact sound.flagged found kind
      · rw [if_neg same]
        exact sound.flagged found other
  present {other k} member := by
    have before : ∃ stream, plain.streams k = some stream := by
      rw [lines_setLine] at member
      split at member
      · exact present k member
      · exact sound.present member
    obtain ⟨old, found⟩ := before
    rw [streams_setLine, streams_changeAll, found]
    split
    · exact ⟨change old, rfl⟩
    · exact ⟨old, rfl⟩
  distinct other := by
    rw [lines_setLine]
    split
    · exact distinct
    · exact sound.distinct other
  states {k new} found := by
    rw [streams_setLine, streams_changeAll] at found
    split at found
    · obtain ⟨old, before, rfl⟩ := Option.map_eq_some_iff.1 found
      rcases states old with ended | same
      · exact .inr (.inl ended)
      · rw [same]
        exact sound.states before
    · exact sound.states found

theorem get_setQueued_of_ne {kind other : QueueKind} (apart : other ≠ kind) (queued : Bool)
    (stream : Stream) :
    (stream.setQueued kind queued).queued.get other = stream.queued.get other := by
  rw [Stream.queued_get_setQueued, if_neg apart]

theorem Sound.enqueue (sound : plain.Sound) (bound : plain.streams id = some stream)
    (absent : id ∉ plain.lines.get kind) : (plain.enqueue kind id).Sound := by
  refine sound.relist ?_ ?_ ?_ ?_ (fun other stream apart => get_setQueued_of_ne apart true stream)
    fun stream => .inr rfl
  · exact List.nodup_append.2 ⟨sound.distinct kind, List.nodup_singleton id, by
      rintro k member _ last rfl
      exact absent (List.mem_singleton.1 last ▸ member)⟩
  · intro k member
    rcases List.mem_append.1 member with before | last
    · exact sound.present before
    · exact ⟨stream, List.mem_singleton.1 last ▸ bound⟩
  · intro k other
    simpa using fun same : k = id => absurd (List.mem_singleton.2 same) other
  · intro k last old found
    simpa [Stream.queued_get_setQueued] using .inr (List.mem_singleton.1 last)

theorem Sound.evict (sound : plain.Sound) (kind : QueueKind) (drop : Stream → Bool) :
    (plain.evict kind drop).Sound := by
  refine sound.relist ?_ ?_ ?_ ?_ (fun other stream apart => get_setQueued_of_ne apart false stream)
    fun stream => .inr rfl
  · exact (sound.distinct kind).filter _
  · exact fun k member => sound.present (List.mem_filter.1 member).1
  · intro k stays
    simp only [List.mem_filter, not_and, Bool.not_eq_true, Bool.not_eq_eq_eq_not,
      Bool.not_true] at stays ⊢
    exact ⟨fun member => member.1, fun member => ⟨member, stays member⟩⟩
  · intro k dropped old found
    have gone := (List.mem_filter.1 dropped).2
    simp [Stream.queued_get_setQueued, gone]

theorem Sound.emptyLine (sound : plain.Sound) (kind : QueueKind) (change : Stream → Stream)
    (flags : ∀ stream, (change stream).queued = (stream.setQueued kind false).queued)
    (states : ∀ stream : Stream,
      (change stream).state = .halfClosedLocal ∨ (change stream).state = stream.state) :
    (plain.emptyLine kind change).Sound := by
  refine sound.relist List.nodup_nil (by simp) ?_ ?_ ?_ states
  · intro k stays
    simp [stays]
  · intro k served old found
    simp [flags, Stream.queued_get_setQueued]
  · intro other stream apart
    rw [flags, get_setQueued_of_ne apart]

theorem Sound.writeResets (sound : plain.Sound) : plain.writeResets.1.Sound :=
  sound.emptyLine .reset _ (fun _ => rfl) fun _ => .inr rfl

theorem Sound.writeWindowUpdates (sound : plain.Sound) : plain.writeWindowUpdates.1.Sound :=
  sound.emptyLine .windowUpdate _ (fun _ => rfl) fun _ => .inr rfl

/-- After their turn in the send queue, streams have left it. -/
theorem Sound.transmitLine (sound : plain.Sound) :
    (plain.emptyLine .send Stream.transmitted).Sound := by
  refine sound.emptyLine .send _ (fun _ => rfl) fun stream => ?_
  simp only [Stream.transmitted]
  split
  · exact .inl rfl
  · exact .inr rfl

end StreamMux.Connection.Plain
