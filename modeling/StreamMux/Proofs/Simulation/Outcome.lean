import StreamMux.Proofs.Simulation.Streams

/-!
# What the script comes to

After the first flush and eight rounds of credit a stream was given nine windows. It waits in the
end when its chunks are more than these (`Simulation.stalls`), and rounds that were not needed would
change nothing (`Simulation.finalState?_of_ended`). So the connection that the script leaves is
known for any number of streams (`Simulation.Played.concluded`).
-/

namespace StreamMux.Simulation

open Connection StreamId Session

variable {window : Int32} {rounds count index : Nat}

/-- Rounds of credit end early only when no stream waits, and more of them would change nothing. -/
theorem finalState?_of_ended (nonneg : 0 ≤ window.toInt) (few : rounds ≤ creditRounds)
    (ended : rounds = creditRounds ∨
      ∀ index < count, finalState? window rounds index ≠ some .opened)
    (within : index < count) :
    finalState? window rounds index = finalState? window creditRounds index := by
  obtain same | none := ended
  · rw [same]
  · have idle := none index within
    have less : ((rounds : Int) + 1) * window.toInt ≤ ((creditRounds : Int) + 1) * window.toInt :=
      Int.mul_le_mul_of_nonneg_right (by omega) nonneg
    have owes : owed window creditRounds index ≤ owed window rounds index := by
      unfold owed
      omega
    unfold finalState? at idle ⊢
    split
    · rfl
    · rename_i stays
      rw [if_neg stays] at idle
      have paid : ¬0 < owed window rounds index := fun short => idle (if_pos short)
      rw [if_neg paid, if_neg (by omega)]

/-- Whether the `index`-th stream waits for credit in the end: it is not reset, and its chunks are
more than its first window and eight more. -/
def stalls (window : Int32) (index : Nat) : Bool :=
  index % 5 != 4 && decide (9 * window.toInt < ((1 + index % 6) * 16384 : Nat))

def ends (window : Int32) (index : Nat) : Bool :=
  index % 5 != 4 && decide ((((1 + index % 6) * 16384 : Nat) : Int) ≤ 9 * window.toInt)

/-- A stream that has written everything does not wait. -/
theorem stalls_of_ends (ended : ends window index = true) : stalls window index = false := by
  rw [ends, Bool.and_eq_true, decide_eq_true_eq] at ended
  rw [stalls, decide_eq_false (by omega), Bool.and_false]

/-- The state at a place in the end, in terms of windows. -/
theorem finalState?_eq (window : Int32) (index : Nat) :
    finalState? window creditRounds index =
      if stalls window index then some .opened
      else if ends window index then some .halfClosedLocal else none := by
  have owes : owed window creditRounds index =
      ((1 + index % 6) * 16384 : Nat) - 9 * window.toInt := rfl
  rw [finalState?, isReset, stalls, ends, owes, bne]
  cases index % 5 == 4 with
  | true => rfl
  | false =>
    simp only [Bool.not_false, Bool.true_and, decide_eq_true_eq, Bool.false_eq_true, if_false]
    by_cases short : 9 * window.toInt < ((1 + index % 6) * 16384 : Nat)
    · rw [if_pos short, if_pos (by omega)]
    · rw [if_neg short, if_neg (by omega), if_pos (by omega)]

theorem finalState?_eq_opened_iff :
    finalState? window creditRounds index = some .opened ↔ stalls window index = true := by
  rw [finalState?_eq]
  cases stalls window index <;> cases ends window index <;> decide

theorem finalState?_eq_halfClosedLocal_iff :
    finalState? window creditRounds index = some .halfClosedLocal ↔ ends window index = true := by
  rw [finalState?_eq]
  cases ended : ends window index with
  | true =>
    rw [stalls_of_ends ended]
    decide
  | false => cases stalls window index <;> decide

/-- A stream that is not reset either waits or has written everything. -/
theorem ends_eq_not_stalls (window : Int32) (kept : index % 5 ≠ 4) :
    ends window index = !stalls window index := by
  rw [ends, stalls, bne_iff_ne.2 kept, Bool.true_and, Bool.true_and, ← decide_not]
  exact decide_eq_decide.2 Int.not_lt.symm

/-- What is left of a stream that is not reset, where more rounds would change nothing. -/
theorem Lived.left {one : Option Stream × List Event} (lived : Lived window rounds index one)
    (final : finalState? window rounds index = finalState? window creditRounds index)
    (kept : index % 5 ≠ 4) :
    ∃ stream, one.1 = some stream ∧
      stream.state = (if stalls window index then .opened else .halfClosedLocal) ∧
      (stream.pendingData = [] ↔ stalls window index = false) := by
  obtain ⟨stream, there, settled⟩ := lived.stays (beq_false_of_ne kept)
  have state := lived.state_eq
  have emptied := settled.emptied_iff
  rw [there, final, finalState?_eq, ends_eq_not_stalls window kept] at state
  refine ⟨stream, there, ?_⟩
  cases waits : stalls window index with
  | true =>
    rw [waits] at state
    have opened : stream.state = .opened := Option.some.inj state
    rw [opened] at emptied
    exact ⟨opened, emptied.trans (by decide)⟩
  | false =>
    rw [waits] at state
    have ended : stream.state = .halfClosedLocal := Option.some.inj state
    rw [ended] at emptied
    exact ⟨ended, emptied.trans (by decide)⟩

/-- No stream is left in another state. -/
theorem countP_other (window : Int32) (count : Nat) {state : StreamState}
    (other : state ≠ .opened ∧ state ≠ .halfClosedLocal) :
    ((List.range count).countP fun index =>
      finalState? window creditRounds index == some state) = 0 := by
  rw [List.countP_eq_zero]
  intro index _ same
  rw [beq_iff_eq, finalState?_eq] at same
  split at same
  · exact other.1 (Option.some.inj same).symm
  · split at same
    · exact other.2 (Option.some.inj same).symm
    · cases same

/-- What the line on the states says of one of them: nothing where it has no streams. -/
def share (state : StreamState) (number : Nat) : String :=
  if number = 0 then "" else s!" {state.name}={number}"

theorem join_shares (head : String) (counted : List (StreamState × Nat)) :
    String.join (head :: counted.filterMap fun (state, number) =>
        if number = 0 then none else some s!" {state.name}={number}") =
      String.join (head :: counted.map fun (state, number) => share state number) := by
  rw [String.join_cons, String.join_cons]
  congr 1
  induction counted with
  | nil => rfl
  | cons one rest ih =>
    obtain ⟨state, number⟩ := one
    rw [List.filterMap_cons, List.map_cons, String.join_cons]
    dsimp only
    by_cases none : number = 0
    · rw [share, if_pos none, if_pos none, String.empty_append]
      exact ih
    · rw [share, if_neg none, if_neg none]
      dsimp only
      rw [String.join_cons, ih]

def statesText (window : Int32) (count : Nat) : String :=
  "streams by state:" ++ share .opened ((List.range count).countP (stalls window)) ++
    share .halfClosedLocal ((List.range count).countP (ends window))

theorem censusText_eq (window : Int32) (count : Nat) :
    censusText (StreamState.all.map fun state => (List.range count).countP fun index =>
        finalState? window creditRounds index == some state) = statesText window count := by
  have none {state : StreamState} (other : state ≠ .opened ∧ state ≠ .halfClosedLocal) :
      share state ((List.range count).countP fun index =>
        finalState? window creditRounds index == some state) = "" :=
    if_pos (countP_other window count other)
  have opened : ((List.range count).countP fun index =>
      finalState? window creditRounds index == some .opened) =
        (List.range count).countP (stalls window) :=
    List.countP_congr fun index _ => beq_iff_eq.trans finalState?_eq_opened_iff
  have ended : ((List.range count).countP fun index =>
      finalState? window creditRounds index == some .halfClosedLocal) =
        (List.range count).countP (ends window) :=
    List.countP_congr fun index _ => beq_iff_eq.trans finalState?_eq_halfClosedLocal_iff
  have regroup (head first second : String) :
      String.join [head, "", "", "", first, second, "", ""] = head ++ first ++ second := by
    simp only [String.join_cons, String.join_nil, String.empty_append, String.append_empty,
      String.append_assoc]
  rw [censusText, join_shares]
  simp only [StreamState.all, List.map_cons, List.map_nil, List.zip_cons_cons, List.zip_nil_left]
  rw [opened, ended, none (by decide), none (by decide), none (by decide), none (by decide),
    none (by decide)]
  exact regroup ..

variable {conn : Connection} {session : Session}

/-- The census is that of the places. -/
theorem Scripted.census_eq {done : Plain × List Event}
    (scripted : Scripted window rounds count done) (models : conn.Models done.1)
    (bound : count ≤ clientCount) :
    conn.census = .ok (StreamState.all.map fun state =>
      (List.range count).countP fun index => finalState? window rounds index == some state) := by
  have known (id : StreamId) (there : (done.1.streams id).isSome = true) :
      id ∈ (List.range count).map client := by
    obtain ⟨index, within, rfl⟩ := scripted.exists_place (.inl there)
    exact List.mem_map_of_mem (List.mem_range.2 within)
  rw [models.census_eq (nodup_clients bound) known]
  simp only [scripted.countP_state]

/-- The streams in the store have places, and were not reset. -/
theorem Scripted.exists_place_of_lookup {done : Plain × List Event}
    (scripted : Scripted window rounds count done) (models : conn.Models done.1) {id : StreamId}
    {stream : Stream} (found : conn.store.lookup id = some stream) :
    ∃ index < count, index % 5 ≠ 4 ∧ id = client index := by
  have there := models.streams_of_lookup found
  obtain ⟨index, within, rfl⟩ :=
    scripted.exists_place (.inl (by rw [there, Option.isSome_some]))
  refine ⟨index, within, fun last => ?_, rfl⟩
  obtain ⟨events, -, lived⟩ := scripted.lived index within
  cases there.symm.trans (lived.goes (beq_iff_eq.2 last))

structure Concluded (config : Config) (attempts : Nat) (session : Session) : Prop where
  waits : session.connection.hasPendingSend =
    (List.range (config.admitted attempts)).any (stalls config.initialWindowSize)
  census : session.connection.census = .ok (StreamState.all.map fun state =>
    (List.range (config.admitted attempts)).countP fun index =>
      finalState? config.initialWindowSize creditRounds index == some state)
  places : ∀ index < config.admitted attempts, index % 5 ≠ 4 →
    ∃ stream, session.connection.store.lookup (client index) = some stream ∧
      stream.state = (if stalls config.initialWindowSize index then .opened else .halfClosedLocal) ∧
      (stream.pendingData = [] ↔ stalls config.initialWindowSize index = false)
  others : ∀ id stream, session.connection.store.lookup id = some stream →
    ∃ index < config.admitted attempts, index % 5 ≠ 4 ∧ id = client index
  size : session.connection.store.size =
    config.admitted attempts - config.admitted attempts / 5
  inserts : session.connection.store.stats.inserts = config.admitted attempts
  removes : session.connection.store.stats.removes = config.admitted attempts / 5
  opened : (session.output.toList.filterMap Output.event?).countP (·.kind == .opened) =
    config.admitted attempts
  filtered : (session.output.toList.filterMap Output.event?).countP (·.kind == .filtered) =
    config.admitted attempts / 5
  closed : (session.output.toList.filterMap Output.event?).countP (·.kind == .closed) =
    config.admitted attempts / 5

/-- A session that has carried out the calls of the script, with all rounds of credit or so many
that no stream waits any more. -/
structure Played (conn : Connection) (attempts rounds : Nat) (session : Session) : Prop where
  bound : attempts ≤ clientCount
  few : rounds ≤ creditRounds
  ended : rounds = creditRounds ∨ session.connection.hasPendingSend = false
  models : session.connection.Models
    (Plain.run { config := conn.config } (scriptCalls conn.config attempts rounds)).1
  events : session.output.toList.filterMap Output.event? =
    (Plain.run { config := conn.config } (scriptCalls conn.config attempts rounds)).2

theorem Played.concluded {attempts : Nat} (played : Played conn attempts rounds session)
    (fresh : conn.Fresh) (nonneg : 0 ≤ conn.config.initialWindowSize.toInt) :
    Concluded conn.config attempts session := by
  have few : conn.config.admitted attempts ≤ clientCount :=
    Nat.le_trans (Nat.min_le_left ..) played.bound
  have scripted := scripted fresh nonneg played.bound rounds
  have logged := fresh.logged_run (scriptCalls conn.config attempts rounds)
  have books := Plain.books_run { config := conn.config } (scriptCalls conn.config attempts rounds)
  obtain ⟨bound, brief, ended, models, events⟩ := played
  generalize Plain.run { config := conn.config } (scriptCalls conn.config attempts rounds) =
    done at *
  have waits := models.hasPendingSend_iff.trans scripted.waits_iff
  -- The rounds that were spared would have changed nothing.
  have final : ∀ index < conn.config.admitted attempts,
      finalState? conn.config.initialWindowSize rounds index =
        finalState? conn.config.initialWindowSize creditRounds index := by
    intro index within
    apply finalState?_of_ended nonneg brief _ within
    refine ended.imp_right fun idle place near waiting => ?_
    rw [waits.2 ⟨place, near, waiting⟩] at idle
    cases idle
  obtain ⟨-, -, -, -, live, -, -⟩ := models.tallied logged
  have opened := scripted.countP_opened few
  have closed := scripted.countP_closed few
  rw [opened, closed] at live
  refine
    { waits := ?waits
      census := ?census
      places := ?places
      others := fun id stream found => scripted.exists_place_of_lookup models found
      size := by omega
      inserts := by rw [models.stats, books.inserts, opened, Nat.zero_add]
      removes := by rw [models.stats, books.removes, closed, Nat.zero_add]
      opened := by rw [events, opened]
      filtered := by rw [events, scripted.countP_filtered few]
      closed := by rw [events, closed] }
  case waits =>
    rw [Bool.eq_iff_iff, waits, List.any_eq_true]
    refine exists_congr fun index => ?_
    rw [List.mem_range]
    refine and_congr_right fun within => ?_
    rw [final index within, finalState?_eq_opened_iff]
  case census =>
    rw [scripted.census_eq models few]
    congr 2
    funext state
    refine List.countP_congr fun index member => ?_
    rw [final index (List.mem_range.1 member)]
  case places =>
    intro index within kept
    obtain ⟨events, -, lived⟩ := scripted.lived index within
    obtain ⟨stream, there, left⟩ := lived.left (final index within) kept
    rw [models.streams_eq] at there
    obtain ⟨linked, found, rfl⟩ := Option.map_eq_some_iff.1 there
    exact ⟨linked, found, left⟩

end StreamMux.Simulation
