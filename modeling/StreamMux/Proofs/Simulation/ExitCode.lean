import StreamMux.Proofs.Config.Meaning
import StreamMux.Proofs.Simulation.Command

/-!
# How the command ends

The command is not carried out when its settings file cannot be loaded or its second argument is
not a proper number of streams, and says so in one line of its own. In every other case it succeeds,
since settings that can be read leave nothing to go wrong (`Simulation.command_exits`).
-/

namespace StreamMux.Simulation

/-- The argument asks for so many streams: it is decimal digits after a minus sign or none, which
are worth no more than the largest 32-bit integer. -/
def AsksFor (arg : String) (count : Nat) : Prop :=
  Grammar.Signed arg.toList count ∧ count ≤ 2 ^ 31 - 1

/-- No settings can be had from a file: there is none, or its text means an error. -/
inductive Unusable : Option ByteArray → ConfigError → Prop where
  | absent : Unusable none .fileNotFound
  | atFault {contents : ByteArray} {error : ConfigError}
    (means : Grammar.Means (Grammar.characters contents) (.error error)) :
    Unusable (some contents) error

/-- The first argument names a settings file that cannot be loaded. -/
def Unloadable (args : List String) (contents : Option ByteArray) (path : String)
    (error : ConfigError) : Prop :=
  args[0]? = some path ∧ Unusable contents error

/-- The second argument asks for no number of streams. -/
def Improper (args : List String) (arg : String) : Prop :=
  args[1]? = some arg ∧ ∀ count, ¬AsksFor arg count

/-- The command was not carried out: nothing is printed but one line that gives the reason. -/
structure Report.Refuses (report : Report) (reason : String) : Prop where
  exitCode : report.exitCode = 1
  out : report.out = ""
  err : report.err = "mux_sim: " ++ reason ++ "\n"

structure Report.Succeeds (report : Report) : Prop where
  exitCode : report.exitCode = 0
  err : report.err = ""

variable {args : List String} {contents : Option ByteArray} {config : Config} {error : ConfigError}
  {arg : String} {count : Nat}

theorem asksFor_iff : AsksFor arg count ↔ count? arg = some count := by
  constructor
  · rintro ⟨signed, most⟩
    have range : (0 : Int) ≤ count ∧ (count : Int) ≤ 0x7FFFFFFF := by omega
    rw [count?, Grammar.signed_iff.1 signed]
    simp [range, guard]
  · intro asked
    obtain ⟨value, read, asked⟩ := Option.bind_eq_some_iff.1 asked
    obtain ⟨⟨⟩, passed, given⟩ := Option.bind_eq_some_iff.1 asked
    have range : 0 ≤ value ∧ value ≤ 0x7FFFFFFF := by
      by_contra outside
      rw [guard, if_neg outside] at passed
      cases passed
    cases given
    have worth : ((value.toNat : Nat) : Int) = value := Int.toNat_of_nonneg range.1
    refine ⟨?_, by omega⟩
    rw [worth]
    exact Grammar.signed_iff.2 read

/-- Loading a file fails as its absence or its text has it. -/
theorem unusable_iff : Unusable contents error ↔ Config.ofFile contents = .error error := by
  constructor
  · rintro (_ | means)
    · rfl
    · exact Grammar.means_iff.1 means
  · intro failed
    cases contents with
    | none =>
      cases failed
      exact .absent
    | some contents => exact .atFault (Grammar.means_iff.2 failed)

/-- Settings are missing exactly when there is a file that cannot be loaded. -/
theorem settings_eq_error_iff :
    settings args[0]? contents = .error error ↔ ∃ path, Unloadable args contents path error := by
  cases named : args[0]? with
  | none => simp [settings, Unloadable, named]
  | some path => simp [settings, Unloadable, named, unusable_iff]

/-- There is no number of streams exactly when the second argument gives none. -/
theorem asked_eq_none_iff :
    args[1]?.elim (some defaultCount) count? = none ↔ ∃ arg, Improper args arg := by
  cases given : args[1]? with
  | none => simp [Improper, given]
  | some arg => simp [Improper, given, asksFor_iff, Option.eq_none_iff_forall_ne_some]

theorem refuses_failure (reason : String) : (Report.failure reason).Refuses reason :=
  ⟨rfl, rfl, rfl⟩

/-- With settings that can be loaded and a proper number of streams the command succeeds. -/
theorem command_succeeds (read : settings args[0]? contents = .ok config)
    (proper : ∀ arg, ¬Improper args arg) :
    ∃ report, command args contents = .ok report ∧ report.Succeeds := by
  cases asked : args[1]?.elim (some defaultCount) count? with
  | none =>
    obtain ⟨arg, improper⟩ := asked_eq_none_iff.1 asked
    exact absurd improper (proper arg)
  | some count =>
    obtain ⟨_, _, report, -, -, done, printed⟩ := command_prints read asked
    exact ⟨report, done, printed.exitCode, printed.err⟩

/-- A settings file that cannot be loaded is what is told first. -/
theorem command_unloadable {path : String} (unloadable : Unloadable args contents path error) :
    command args contents = .ok (.failure s!"cannot load {path}: {error.name}") := by
  have named : args.getD 0 "" = path := by rw [List.getD_eq_getElem?_getD, unloadable.1]; rfl
  rw [command, settings_eq_error_iff.2 ⟨path, unloadable⟩, named]
  rfl

/-- An improper number of streams is told where there is nothing wrong with the settings. -/
theorem command_improper (read : settings args[0]? contents = .ok config)
    (improper : Improper args arg) :
    command args contents = .ok (.failure s!"invalid stream_count '{arg}'") := by
  have given : args.getD 1 "" = arg := by rw [List.getD_eq_getElem?_getD, improper.1]; rfl
  rw [command, read]
  dsimp only
  rw [asked_eq_none_iff.2 ⟨arg, improper⟩, given]
  rfl

/-- Only the first two arguments are looked at. -/
theorem command_take (args : List String) (contents : Option ByteArray) :
    command (args.take 2) contents = command args contents := by
  have first : (args.take 2)[0]? = args[0]? := by simp
  have second : (args.take 2)[1]? = args[1]? := by simp
  simp only [command, List.getD_eq_getElem?_getD, first, second]

/-- What the command makes of its arguments. -/
inductive Report.Concludes (args : List String) (contents : Option ByteArray) (report : Report) :
    Prop where
  | unloadable {path : String} {error : ConfigError}
    (unloadable : Unloadable args contents path error)
    (refuses : report.Refuses s!"cannot load {path}: {error.name}")
  | improper {arg : String} (loadable : ∀ path error, ¬Unloadable args contents path error)
    (improper : Improper args arg) (refuses : report.Refuses s!"invalid stream_count '{arg}'")
  | carriedOut (loadable : ∀ path error, ¬Unloadable args contents path error)
    (proper : ∀ arg, ¬Improper args arg) (succeeds : report.Succeeds)

/-- Whatever the arguments are, the command comes to one of the three conclusions. -/
theorem command_concludes (args : List String) (contents : Option ByteArray) :
    ∃ report, command args contents = .ok report ∧ report.Concludes args contents := by
  cases read : settings args[0]? contents with
  | error error =>
    obtain ⟨path, unloadable⟩ := settings_eq_error_iff.1 read
    exact ⟨_, command_unloadable unloadable, .unloadable unloadable (refuses_failure _)⟩
  | ok config =>
    have loadable : ∀ path error, ¬Unloadable args contents path error := by
      intro path error unloadable
      rw [settings_eq_error_iff.2 ⟨path, unloadable⟩] at read
      cases read
    by_cases improper : ∃ arg, Improper args arg
    · obtain ⟨arg, improper⟩ := improper
      exact ⟨_, command_improper read improper, .improper loadable improper (refuses_failure _)⟩
    · have proper := not_exists.1 improper
      obtain ⟨report, done, succeeds⟩ := command_succeeds read proper
      exact ⟨report, done, .carriedOut loadable proper succeeds⟩

namespace Report.Concludes

variable {report : Report} {path : String}

theorem exitCode_eq_one_iff (concludes : report.Concludes args contents) :
    report.exitCode = 1 ↔
      (∃ path error, Unloadable args contents path error) ∨ ∃ arg, Improper args arg := by
  cases concludes with
  | unloadable unloadable refuses =>
    exact iff_of_true refuses.exitCode (.inl ⟨_, _, unloadable⟩)
  | improper loadable improper refuses => exact iff_of_true refuses.exitCode (.inr ⟨_, improper⟩)
  | carriedOut loadable proper succeeds =>
    rw [succeeds.exitCode]
    simp [loadable, proper]

theorem refuses_of_unloadable (concludes : report.Concludes args contents)
    (unloadable : Unloadable args contents path error) :
    report.Refuses s!"cannot load {path}: {error.name}" := by
  cases concludes with
  | unloadable first refuses =>
    obtain rfl := Option.some.inj (first.1.symm.trans unloadable.1)
    have failed := unusable_iff.1 first.2
    rw [unusable_iff.1 unloadable.2] at failed
    cases failed
    exact refuses
  | improper loadable improper refuses => exact absurd unloadable (loadable path error)
  | carriedOut loadable proper succeeds => exact absurd unloadable (loadable path error)

theorem refuses_of_improper (concludes : report.Concludes args contents)
    (improper : Improper args arg) (loadable : ∀ path error, ¬Unloadable args contents path error) :
    report.Refuses s!"invalid stream_count '{arg}'" := by
  cases concludes with
  | unloadable unloadable refuses => exact absurd unloadable (loadable _ _)
  | improper loadable first refuses =>
    obtain rfl := Option.some.inj (first.1.symm.trans improper.1)
    exact refuses
  | carriedOut loadable proper succeeds => exact absurd improper (proper arg)

theorem succeeds_of_exitCode_ne_one (concludes : report.Concludes args contents)
    (other : report.exitCode ≠ 1) : report.Succeeds := by
  cases concludes with
  | unloadable unloadable refuses => exact absurd refuses.exitCode other
  | improper loadable improper refuses => exact absurd refuses.exitCode other
  | carriedOut loadable proper succeeds => exact succeeds

end Report.Concludes

/-- The command is not carried out when its first argument names a settings file that is absent or
at fault, or when its second argument asks for no number of streams, and of the two it tells the
first. In every other case it succeeds. Any further argument is ignored. Settings that were read,
and those that hold where none are given, are within their bounds, and a store can be set up with
them. -/
theorem command_exits (args : List String) (contents : Option ByteArray) :
    (∃ report, command args contents = .ok report ∧
      (report.exitCode = 1 ↔
        (∃ path error, Unloadable args contents path error) ∨ ∃ arg, Improper args arg) ∧
      (∀ path error, Unloadable args contents path error →
        report.Refuses s!"cannot load {path}: {error.name}") ∧
      (∀ arg, Improper args arg → (∀ path error, ¬Unloadable args contents path error) →
        report.Refuses s!"invalid stream_count '{arg}'") ∧
      (report.exitCode ≠ 1 → report.Succeeds)) ∧
    command (args.take 2) contents = command args contents ∧
    ∀ config, config = .defaults ∨ (∃ bytes, Config.ofBytes bytes = .ok config) →
      config.initialCapacity ≤ 2 ^ 20 ∧ 1 ≤ config.maxConcurrentStreams.toNat ∧
      0 ≤ config.initialWindowSize.toInt ∧ config.initialWindowSize.toInt ≤ 2 ^ 31 - 1 ∧
      ∃ store, Store.withCapacity config.initialCapacity = .ok store := by
  refine ⟨?_, command_take args contents, fun config known => ?_⟩
  · obtain ⟨report, done, concludes⟩ := command_concludes args contents
    exact ⟨report, done, concludes.exitCode_eq_one_iff,
      fun path error => concludes.refuses_of_unloadable,
      fun arg => concludes.refuses_of_improper, concludes.succeeds_of_exitCode_ne_one⟩
  · have valid : config.Valid := by
      rcases known with rfl | ⟨bytes, read⟩
      · exact Config.valid_defaults
      · exact Config.valid_of_ofBytes read
    exact ⟨valid.capacity, valid.streams, valid.window, toInt_le_maxWindow _, _,
      withCapacity_of_valid valid⟩

/-- Minus zero streams are a proper number. -/
example : AsksFor "-00" 0 := asksFor_iff.2 rfl

end StreamMux.Simulation
