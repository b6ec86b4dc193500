import StreamMux.Proofs.Connection.Reachable
import StreamMux.Proofs.StreamId.Succession
import StreamMux.Simulation.Session

/-!
# Opening streams in a row

A client tries its ids one after the other. As many streams come as the limit allows, and the
attempts after them are refused (`Connection.Plain.opened_openings`).
-/

namespace StreamMux

def Config.admitted (config : Config) (attempts : Nat) : Nat :=
  min attempts config.maxConcurrentStreams.toNat

namespace Connection.Plain

open StreamId

def openings (attempts : Nat) : List Call :=
  (List.range attempts).map fun index => .accept (client index)

theorem openings_succ (attempts : Nat) :
    openings (attempts + 1) = openings attempts ++ [.accept (client attempts)] := by
  rw [openings, List.range_succ, List.map_append]
  rfl

/-- A connection after its client tried to open streams: those within the limit are there, as they
were opened, and nothing else happened. -/
structure Opened (config : Config) (attempts : Nat) (done : Plain × List Event) : Prop where
  settings : done.1.config = config
  count : done.1.openStreams.toNat = config.admitted attempts
  present : ∀ index < config.admitted attempts, done.1.streams (client index) =
    some { Stream.withWindow config.initialWindowSize with state := .opened }
  absent : ∀ id, (∀ index < config.admitted attempts, id ≠ client index) →
    done.1.streams id = none
  events : done.2 = (List.range (config.admitted attempts)).map fun index => .opened (client index)

variable {config : Config} {attempts : Nat} {done : Plain × List Event}

theorem opened_fresh (config : Config) : Opened config 0 ({ config }, []) := by
  have none : config.admitted 0 = 0 := Nat.zero_min _
  constructor
  · rfl
  · rw [none]
    rfl
  · rw [none]
    exact nofun
  · exact fun _ _ => rfl
  · rw [none]
    rfl

/-- Within the limit the next id is accepted, for it has no stream. -/
theorem Opened.accept (opened : Opened config attempts done) (bound : attempts < clientCount)
    (room : attempts < config.maxConcurrentStreams.toNat) :
    (done.1.accept (client attempts)).1 = true ∧
      Opened config (attempts + 1)
        ((done.1.accept (client attempts)).2.1,
          done.2 ++ (done.1.accept (client attempts)).2.2) := by
  obtain ⟨settings, count, present, absent, events⟩ := opened
  have before : config.admitted attempts = attempts := Nat.min_eq_left (by omega)
  have after : config.admitted (attempts + 1) = attempts + 1 := Nat.min_eq_left room
  rw [before] at count present absent events
  have notFull : ¬done.1.config.maxConcurrentStreams ≤ done.1.openStreams := by
    rw [UInt32.le_iff_toNat_le, settings, count]
    omega
  have unknown : done.1.streams (client attempts) = none :=
    absent _ fun index earlier same => by
      have equal := client_inj bound (by omega) same
      omega
  rw [Plain.accept, if_neg notFull, unknown, if_neg (by simp)]
  refine ⟨rfl, settings, ?_, ?_, ?_, ?_⟩
  · unfold clientCount at bound
    show (done.1.openStreams + 1).toNat = _
    rw [after, UInt32.toNat_add, UInt32.toNat_one, count, Nat.mod_eq_of_lt (by omega)]
  · intro index within
    rw [after] at within
    show (((done.1.look _).set _ _).streams (client index)) = _
    rw [streams_set, Plain.openedStream, settings]
    split
    · rfl
    · rename_i apart
      have earlier : index ≠ attempts := fun same => apart (congrArg client same)
      exact present index (by omega)
  · intro id apart
    rw [after] at apart
    show ((done.1.look _).set _ _).streams id = none
    rw [streams_set, if_neg (apart attempts (by omega))]
    exact absent id fun index within => apart index (by omega)
  · rw [after, List.range_succ, List.map_append, events]
    rfl

/-- Beyond the limit nothing is accepted. -/
theorem Opened.refuse (opened : Opened config attempts done)
    (full : config.maxConcurrentStreams.toNat ≤ attempts) (id : StreamId) :
    done.1.accept id = (false, done.1, []) ∧ Opened config (attempts + 1) done := by
  have same : config.admitted (attempts + 1) = config.admitted attempts := by
    unfold Config.admitted
    omega
  have limit : done.1.config.maxConcurrentStreams ≤ done.1.openStreams := by
    rw [UInt32.le_iff_toNat_le, opened.settings, opened.count, Config.admitted]
    omega
  refine ⟨by rw [Plain.accept, if_pos limit], ?_⟩
  obtain ⟨settings, count, present, absent, events⟩ := opened
  rw [← same] at count present absent events
  exact ⟨settings, count, present, absent, events⟩

theorem run_openings_succ (config : Config) (attempts : Nat) :
    let before := run { config } (openings attempts)
    let accepted := before.1.accept (client attempts)
    run { config } (openings (attempts + 1)) = (accepted.2.1, before.2 ++ accepted.2.2) := by
  rw [openings_succ, run_append]
  dsimp only [run, step]
  rw [List.append_nil]

/-- As many streams are opened as there are attempts, up to the limit. -/
theorem opened_openings (config : Config) (bound : attempts ≤ clientCount) :
    Opened config attempts (run { config } (openings attempts)) := by
  induction attempts with
  | zero => exact opened_fresh config
  | succ attempts ih =>
    have opened := ih (by omega)
    rw [run_openings_succ]
    by_cases room : attempts < config.maxConcurrentStreams.toNat
    · exact (opened.accept (by omega) room).2
    · obtain ⟨refused, after⟩ := opened.refuse (by omega) (client attempts)
      rw [refused, List.append_nil]
      exact after

end Connection.Plain

end StreamMux
