import StreamMux.Proofs.Simulation.Script

/-!
# The streams of the script

Every call of the script but for the flushes names one stream, so that each stream has the calls of
its own place in the order of opening (`Simulation.filter_followUp`) and lives accordingly
(`Simulation.scripted`). What is counted of all streams and of all events is a sum over these
places.
-/

namespace StreamMux.Simulation

open Connection StreamId

/-- What the calls of the script leave of the first `count` streams of a client; there are no
others. -/
structure Scripted (window : Int32) (rounds count : Nat) (done : Plain × List Event) : Prop where
  lived : ∀ index < count, ∃ events,
    done.2.filter (Event.about (client index)) = .opened (client index) :: events ∧
      Lived window rounds index (done.1.streams (client index), events)
  apart : ∀ id, (∀ index < count, id ≠ client index) →
    done.1.streams id = none ∧ done.2.filter (Event.about id) = []

variable {window : Int32} {rounds count index attempts : Nat} {done : Plain × List Event}

/-- Where only one place has anything, that is all there is. -/
theorem flatMap_range_eq {α : Type} {listed : Nat → List α} (within : index < count)
    (none : ∀ place < count, place ≠ index → listed place = []) :
    (List.range count).flatMap listed = listed index := by
  induction count with
  | zero => omega
  | succ count ih =>
    rw [List.range_succ, List.flatMap_append, List.flatMap_singleton]
    by_cases last : index = count
    · subst last
      have before : (List.range index).flatMap listed = [] :=
        List.flatMap_eq_nil_iff.2 fun place member => by
          have earlier := List.mem_range.1 member
          exact none place (by omega) (by omega)
      rw [before, List.nil_append]
    · rw [none count (by omega) (Ne.symm last), List.append_nil]
      exact ih (by omega) fun place near => none place (by omega)

/-- Where the calls at each place name the stream of that place, a stream has those of its own. -/
theorem filter_flatMap_client {calls : Nat → List Call} (bound : count ≤ clientCount)
    (names : ∀ place, ∀ call ∈ calls place, call.target? = some (client place))
    (within : index < count) :
    ((List.range count).flatMap calls).filter (Call.concerns (client index)) = calls index := by
  have concerned {place : Nat} {call : Call} (member : call ∈ calls place) (near : place < count) :
      call.concerns (client index) = true ↔ place = index := by
    have target := names place call member
    have unflushed : call ≠ .flush := by
      rintro rfl
      cases target
    rw [Call.concerns_iff, or_iff_left unflushed, target, Option.some_inj]
    exact ⟨client_inj (by omega) (by omega), congrArg client⟩
  rw [List.filter_flatMap, flatMap_range_eq within]
  · rw [List.filter_eq_self]
    exact fun call member => (concerned member within).2 rfl
  · intro place near other
    rw [List.filter_eq_nil_iff]
    exact fun call member concerns => other ((concerned member near).1 concerns)

/-- The calls at a place name the stream of that place, and do not ask for a new one. -/
theorem named_traffic (index : Nat) (id : StreamId) :
    ∀ call ∈ Session.traffic index id, call.target? = some id ∧ Alone.asks call = false := by
  intro call member
  rw [Session.traffic, List.mem_append, List.mem_append, List.mem_singleton] at member
  obtain (sends | rfl) | resets := member
  · rw [List.eq_of_mem_replicate sends]
    exact ⟨rfl, rfl⟩
  · exact ⟨rfl, rfl⟩
  · split at resets
    · rw [List.mem_singleton.1 resets]
      exact ⟨rfl, rfl⟩
    · cases resets

/-- What the script asks of a stream once it is opened. -/
theorem filter_followUp (window : Int32) (bound : count ≤ clientCount) (rounds : Nat)
    (within : index < count) :
    (Session.followUp window count rounds).filter (Call.concerns (client index)) =
      duties window rounds index (client index) := by
  have traffic := filter_flatMap_client bound
    (fun place call member => (named_traffic place (client place) call member).1) within
  have grants : (((List.range count).map client).map (.grant · window)).filter
      (Call.concerns (client index)) = [.grant (client index) window] := by
    rw [List.map_map, List.map_eq_flatMap]
    exact filter_flatMap_client bound (fun place => List.forall_mem_singleton.2 rfl) within
  have flush : Call.concerns (client index) .flush = true := rfl
  rw [Session.followUp, List.filter_append, List.filter_cons_of_pos flush, traffic,
    List.filter_flatten, List.map_replicate, Session.creditRound, List.filter_append, grants]
  rfl

/-- No stream is asked for but in the beginning. -/
theorem quiet_followUp (window : Int32) (count rounds : Nat) :
    ∀ call ∈ Session.followUp window count rounds, Alone.asks call = false := by
  intro call member
  rcases List.mem_append.1 member with traffic | later
  · obtain ⟨place, -, named⟩ := List.mem_flatMap.1 traffic
    exact (named_traffic place (client place) call named).2
  · obtain rfl | credit := List.mem_cons.1 later
    · rfl
    · obtain ⟨calls, replicated, listed⟩ := List.mem_flatten.1 credit
      rw [List.eq_of_mem_replicate replicated, Session.creditRound, List.mem_append,
        List.mem_singleton] at listed
      obtain granted | rfl := listed
      · obtain ⟨id, -, rfl⟩ := List.mem_map.1 granted
        rfl
      · rfl

theorem nodup_clients (bound : count ≤ clientCount) : ((List.range count).map client).Nodup := by
  apply List.Nodup.map_on
  · intro first near second near' same
    rw [List.mem_range] at near near'
    exact client_inj (by omega) (by omega) same
  · exact List.nodup_range

/-- Each stream lives as its place has it. -/
theorem scripted {conn : Connection} (fresh : conn.Fresh)
    (nonneg : 0 ≤ conn.config.initialWindowSize.toInt) (bound : attempts ≤ clientCount)
    (rounds : Nat) :
    Scripted conn.config.initialWindowSize rounds (conn.config.admitted attempts)
      (Plain.run { config := conn.config } (Session.scriptCalls conn.config attempts rounds)) := by
  let config := conn.config
  let calls := Session.followUp config.initialWindowSize (config.admitted attempts) rounds
  have few : config.admitted attempts ≤ clientCount := Nat.le_trans (Nat.min_le_left ..) bound
  have opened := Plain.opened_openings config bound
  obtain ⟨middle, -, models⟩ := fresh.models_fresh.run (Plain.openings attempts)
  have orderly :=
    fresh.models_fresh.orderly_run (Plain.orderly_fresh config) (Plain.openings attempts)
  have view := models.view_run orderly calls
  have about (id : StreamId) : (Plain.run { config } (Plain.openings attempts)).2.filter
      (Event.about id) =
        if id ∈ (List.range (config.admitted attempts)).map client then [.opened id] else [] := by
    rw [opened.events, ← filter_map_about (nodup_clients few) (fun _ => rfl), List.map_map]
    rfl
  rw [Session.scriptCalls, Plain.run_append]
  constructor
  · intro index within
    obtain ⟨answers, -, shown⟩ := view (client index)
    rw [opened.settings, filter_followUp _ few rounds within, opened.present index within] at shown
    have lived := lived_duties nonneg rounds index (client index) answers
    rw [← shown] at lived
    refine ⟨_, ?_, lived⟩
    dsimp only
    rw [List.filter_append, about, if_pos (List.mem_map_of_mem (List.mem_range.2 within))]
    rfl
  · intro id outside
    obtain ⟨answers, -, shown⟩ := view id
    have quiet : ∀ call ∈ calls.filter (Call.concerns id), Alone.asks call = false :=
      fun call member => quiet_followUp _ _ _ call (List.mem_filter.1 member).1
    rw [opened.absent id outside, Alone.run_none quiet] at shown
    obtain ⟨gone, silent⟩ := Prod.mk.inj shown
    have unknown : id ∉ (List.range (config.admitted attempts)).map client := by
      intro member
      obtain ⟨index, within, same⟩ := List.mem_map.1 member
      exact outside index (List.mem_range.1 within) same.symm
    refine ⟨gone, ?_⟩
    dsimp only
    rw [List.filter_append, about, if_neg unknown]
    exact silent

theorem toNat_isReset (index : Nat) : (isReset index).toNat = if index % 5 = 4 then 1 else 0 := by
  unfold isReset
  split
  · rename_i last
    rw [last]
    rfl
  · rename_i other
    rw [beq_false_of_ne other]
    rfl

/-- Every fifth stream is reset. -/
theorem sum_isReset (count : Nat) :
    ∑ index ∈ Finset.range count, (isReset index).toNat = count / 5 := by
  induction count with
  | zero => rfl
  | succ count ih =>
    rw [Finset.sum_range_succ, ih, toNat_isReset]
    split <;> omega

/-- The state of the stream at a place in the end, unless it is gone. -/
def finalState? (window : Int32) (rounds index : Nat) : Option StreamState :=
  if isReset index then none
  else if 0 < owed window rounds index then some .opened else some .halfClosedLocal

theorem Lived.state_eq {one : Option Stream × List Event}
    (lived : Lived window rounds index one) :
    one.1.map Stream.state = finalState? window rounds index := by
  cases reset : isReset index with
  | true =>
    rw [lived.goes reset, finalState?, reset]
    rfl
  | false =>
    obtain ⟨stream, there, settled⟩ := lived.stays reset
    rw [there, finalState?, reset, if_neg Bool.false_ne_true, Option.map_some]
    cases settled with
    | pending short pending => rw [if_pos short, pending.state]
    | finished paid finished => rw [if_neg (by omega), finished.state]

/-- A stream waits to send in the end when it owes something. -/
theorem Lived.waits_eq {one : Option Stream × List Event} (lived : Lived window rounds index one) :
    one.1.any (·.queued.send) = (finalState? window rounds index == some .opened) := by
  cases reset : isReset index with
  | true =>
    rw [lived.goes reset, finalState?, reset]
    rfl
  | false =>
    obtain ⟨stream, there, settled⟩ := lived.stays reset
    rw [there, finalState?, reset, if_neg Bool.false_ne_true, Option.any_some]
    cases settled with
    | pending short pending =>
      rw [if_pos short, pending.waits]
      rfl
    | finished paid finished =>
      rw [if_neg (by omega), finished.idle]
      rfl

namespace Scripted

variable (scripted : Scripted window rounds count done)

include scripted

/-- A stream of the script has a place. -/
theorem exists_place {id : StreamId}
    (seen : (done.1.streams id).isSome = true ∨ done.2.filter (Event.about id) ≠ []) :
    ∃ index < count, id = client index := by
  by_contra outside
  obtain ⟨gone, silent⟩ := scripted.apart id fun index within same => outside ⟨index, within, same⟩
  rw [gone, silent] at seen
  simp at seen

/-- What is counted of the events is a sum over the places. -/
theorem countP_eq_sum (bound : count ≤ clientCount) {p : Event → Bool} {share : Nat → Nat}
    (each : ∀ index < count, (done.2.filter (Event.about (client index))).countP p = share index) :
    done.2.countP p = ∑ index ∈ Finset.range count, share index := by
  have known : ∀ event ∈ done.2, event.stream ∈ (Finset.range count).image client := by
    intro event reported
    obtain ⟨index, within, same⟩ := scripted.exists_place (.inr (List.ne_nil_of_mem
      (List.mem_filter.2 ⟨reported, beq_iff_eq.2 rfl⟩)))
    exact Finset.mem_image.2 ⟨index, Finset.mem_range.2 within, same.symm⟩
  have apart : Set.InjOn client (Finset.range count) := by
    intro first near second near' same
    rw [Finset.mem_coe, Finset.mem_range] at near near'
    exact client_inj (by omega) (by omega) same
  rw [Event.countP_eq_sum p known, Finset.sum_image apart]
  exact Finset.sum_congr rfl fun index within => each index (Finset.mem_range.1 within)

theorem countP_opened (bound : count ≤ clientCount) :
    done.2.countP (·.kind == .opened) = count := by
  have one : ∀ index < count,
      (done.2.filter (Event.about (client index))).countP (·.kind == .opened) = 1 := by
    intro index within
    obtain ⟨events, reported, lived⟩ := scripted.lived index within
    rw [reported, List.countP_cons, lived.opened]
    rfl
  rw [scripted.countP_eq_sum bound one, Finset.sum_const, Finset.card_range]
  exact Nat.mul_one count

theorem countP_filtered (bound : count ≤ clientCount) :
    done.2.countP (·.kind == .filtered) = count / 5 := by
  rw [← sum_isReset]
  apply scripted.countP_eq_sum bound
  intro index within
  obtain ⟨events, reported, lived⟩ := scripted.lived index within
  rw [reported, List.countP_cons, lived.filtered]
  rfl

theorem countP_closed (bound : count ≤ clientCount) :
    done.2.countP (·.kind == .closed) = count / 5 := by
  rw [← sum_isReset]
  apply scripted.countP_eq_sum bound
  intro index within
  obtain ⟨events, reported, lived⟩ := scripted.lived index within
  rw [reported, List.countP_cons, lived.closed]
  rfl

/-- Streams wait to send in the end when one of them owes something. -/
theorem waits_iff : (∃ id, (done.1.streams id).any (·.queued.send) = true) ↔
    ∃ index < count, finalState? window rounds index = some .opened := by
  constructor
  · rintro ⟨id, waits⟩
    obtain ⟨stream, there, -⟩ := (Option.any_eq_true ..).1 waits
    obtain ⟨index, within, rfl⟩ := scripted.exists_place (.inl (by rw [there, Option.isSome_some]))
    obtain ⟨events, -, lived⟩ := scripted.lived index within
    rw [lived.waits_eq, beq_iff_eq] at waits
    exact ⟨index, within, waits⟩
  · rintro ⟨index, within, waits⟩
    obtain ⟨events, -, lived⟩ := scripted.lived index within
    refine ⟨client index, ?_⟩
    rw [lived.waits_eq, waits]
    rfl

/-- The streams in a state are those that their places leave in it. -/
theorem countP_state (state : StreamState) :
    ((List.range count).map client).countP (fun id => (done.1.streams id).any (·.state == state)) =
      (List.range count).countP fun index => finalState? window rounds index == some state := by
  rw [List.countP_map]
  apply List.countP_congr
  intro index member
  obtain ⟨events, -, lived⟩ := scripted.lived index (List.mem_range.1 member)
  rw [← lived.state_eq, Function.comp_apply]
  cases done.1.streams (client index) <;> simp

end Scripted

end StreamMux.Simulation
