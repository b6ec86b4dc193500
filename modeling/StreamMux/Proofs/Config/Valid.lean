import StreamMux.Config.Parser

/-!
# Settings that can be read

Every line of settings keeps them within their bounds, so settings that were read are valid
(`Config.valid_of_ofBytes`): a connection can be set up with them, accepts a stream, and begins
each stream with a window that is not negative.
-/

namespace StreamMux.Config

structure Valid (config : Config) : Prop where
  capacity : config.initialCapacity ≤ Slab.maxInitialCapacity
  streams : 1 ≤ config.maxConcurrentStreams.toNat
  window : 0 ≤ config.initialWindowSize.toInt

theorem valid_defaults : defaults.Valid := by
  constructor <;> decide

variable {config after : Config} {setting : Setting} {text line : List Char}

theorem guard_eq_some_iff {condition : Prop} [Decidable condition] {value next : Config} :
    (do guard condition; return value) = some next ↔ condition ∧ value = next := by
  by_cases holds : condition
  · have passed : (guard condition : Option Unit) = some () := if_pos holds
    rw [passed]
    exact Option.some_inj.trans (iff_and_self.2 fun _ => holds)
  · have failed : (guard condition : Option Unit) = none := if_neg holds
    rw [failed]
    exact ⟨nofun, fun both => absurd both.1 holds⟩

/-- A value that a setting is given is within the bounds of that setting. -/
theorem Valid.assign (valid : config.Valid) (assigned : config.assign setting text = some after) :
    after.Valid := by
  obtain ⟨capacity, streams, window⟩ := valid
  cases setting with
  | initialCapacity =>
    obtain ⟨value, -, done⟩ := Option.bind_eq_some_iff.1 assigned
    obtain ⟨fits, rfl⟩ := guard_eq_some_iff.1 done
    exact ⟨fits, streams, window⟩
  | maxConcurrentStreams =>
    obtain ⟨value, -, done⟩ := Option.bind_eq_some_iff.1 assigned
    obtain ⟨⟨positive, small⟩, rfl⟩ := guard_eq_some_iff.1 done
    refine ⟨capacity, ?_, window⟩
    rw [UInt32.toNat_ofNat_of_lt' small]
    exact positive
  | initialWindowSize =>
    obtain ⟨value, -, done⟩ := Option.bind_eq_some_iff.1 assigned
    obtain ⟨⟨nonneg, small⟩, rfl⟩ := guard_eq_some_iff.1 done
    refine ⟨capacity, streams, ?_⟩
    unfold maxWindow at small
    rw [Int32.toInt_ofInt_of_le]
    · exact nonneg
    · omega
    · omega
  | echoEvents =>
    obtain ⟨value, -, done⟩ := Option.bind_eq_some_iff.1 assigned
    cases done
    exact ⟨capacity, streams, window⟩

theorem Valid.readLine (valid : config.Valid) (read : config.readLine line = .ok after) :
    after.Valid := by
  unfold Config.readLine at read
  split at read
  · cases read
    exact valid
  · cases read
  · split at read
    · cases read
    · split at read
      · cases read
      · rename_i assigned
        cases read
        exact valid.assign assigned

theorem Valid.readLines (valid : config.Valid) (read : config.readLines text = .ok after) :
    after.Valid := by
  have whole (lines : List (List Char)) {start : Config} (bounded : start.Valid)
      (folded : lines.foldlM Config.readLine start = .ok after) : after.Valid := by
    induction lines generalizing start with
    | nil =>
      cases folded
      exact bounded
    | cons line rest ih =>
      rw [List.foldlM_cons] at folded
      cases first : start.readLine line with
      | error reason =>
        rw [first] at folded
        cases folded
      | ok next =>
        rw [first] at folded
        exact ih (bounded.readLine first) folded
  exact whole _ valid read

/-- Settings that were read are within their bounds. -/
theorem valid_of_ofBytes {bytes : ByteArray} (read : ofBytes bytes = .ok config) : config.Valid :=
  valid_defaults.readLines read

end StreamMux.Config
