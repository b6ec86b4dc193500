import StreamMux.Proofs.Config.Grammar
import StreamMux.Proofs.Config.Valid

/-!
# Settings are read as the grammar has it

Reading takes the values that the grammar writes, and no others (`Grammar.assign_eq_some_iff`). So a
line fails to be read when the grammar has it at fault (`Grammar.offends_iff`), and lines that are
read one on top of the other amount to what the grammar says (`Grammar.amounts_iff`). Of any bytes
the result is the one that their text means (`Config.ofBytes_eq_iff`).
-/

namespace StreamMux

/-- A setting is known by its name. -/
theorem Setting.ofKey?_eq_some_iff {name : List Char} {setting : Setting} :
    ofKey? name = some setting ↔ setting.key.toList = name := by
  constructor
  · intro found
    unfold ofKey? at found
    have named := List.find?_some found
    exact eq_of_beq named
  · rintro rfl
    exact ofKey?_key setting

namespace Grammar

variable {text line : List Char} {lines : List (List Char)} {setting : Setting}
  {start config next : Config} {error : ConfigError}

theorem isDigit_iff {c : Char} : c.isDigit = true ↔ '0' ≤ c ∧ c ≤ '9' := by
  simp [Char.isDigit, Char.le_def]

/-- The digits are worth the same from the last one on as from the first. -/
theorem ofDigits_eq (text : List Char) :
    Nat.ofDigits 10 (text.reverse.map fun c => c.toNat - '0'.toNat) = Decimal.ofDigits text := by
  induction text using List.reverseRecOn with
  | nil => rfl
  | append_singleton text digit ih =>
    rw [List.reverse_append, List.reverse_singleton, List.singleton_append, List.map_cons,
      Nat.ofDigits_cons, ih, Decimal.ofDigits_append_singleton, Nat.add_comm]

theorem digits_iff {value : Nat} : Digits text value ↔ Decimal.natural? text = some value := by
  rw [Decimal.natural?_eq_some_iff, ← ofDigits_eq]
  constructor
  · rintro ⟨nonempty, digits, worth⟩
    exact ⟨nonempty, fun c member => isDigit_iff.2 (digits c member), worth.symm⟩
  · rintro ⟨nonempty, digits, worth⟩
    exact ⟨nonempty, fun c member => isDigit_iff.1 (digits c member), worth.symm⟩

theorem signed_iff {value : Int} : Signed text value ↔ Decimal.integer? text = some value := by
  constructor
  · rintro (digits | digits)
    · have unsigned (rest : List Char) : text ≠ '-' :: rest := by
        rintro rfl
        have minus := digits.digits '-' List.mem_cons_self
        exact absurd minus (by decide)
      unfold Decimal.integer?
      split
      · rename_i rest
        exact absurd rfl (unsigned rest)
      · rw [digits_iff.1 digits]
        rfl
    · rw [Decimal.integer?, digits_iff.1 digits]
      rfl
  · intro read
    unfold Decimal.integer? at read
    split at read
    · obtain ⟨_, worth, rfl⟩ := Option.map_eq_some_iff.1 read
      obtain ⟨value, digits, worth⟩ := Option.bind_eq_some_iff.1 worth
      cases worth
      exact .negative (digits_iff.2 digits)
    · obtain ⟨_, worth, rfl⟩ := Option.map_eq_some_iff.1 read
      obtain ⟨value, digits, worth⟩ := Option.bind_eq_some_iff.1 worth
      cases worth
      exact .positive (digits_iff.2 digits)

theorem writes_echoEvents_iff {value : Bool} :
    Writes .echoEvents text value ↔ Config.boolean? text = some value := by
  have among (words : List String) :
      words.any (·.toList == text) = true ↔ text ∈ words.map String.toList := by
    rw [List.any_eq_true, List.mem_map]
    simp only [beq_iff_eq]
  constructor
  · rintro (_ | _ | _ | word | word)
    · rw [Config.boolean?, if_pos ((among _).2 word)]
    · simp only [List.map_cons, List.map_nil, List.mem_cons, List.not_mem_nil, or_false] at word
      rcases word with rfl | rfl | rfl | rfl <;> rfl
  · intro read
    unfold Config.boolean? at read
    split at read
    · rename_i yes
      cases read
      exact .yes ((among _).1 yes)
    · split at read
      · rename_i no
        cases read
        exact .no ((among _).1 no)
      · cases read

/-- Reading takes the values that the grammar writes. -/
theorem assign_eq_some_iff : config.assign setting text = some next ↔
    ∃ value, Writes setting text value ∧ config.put setting value = next := by
  cases setting with
  | initialCapacity =>
    constructor
    · intro assigned
      obtain ⟨value, read, done⟩ := Option.bind_eq_some_iff.1 assigned
      obtain ⟨most, rfl⟩ := Config.guard_eq_some_iff.1 done
      exact ⟨value, .capacity (digits_iff.2 read) most, rfl⟩
    · rintro ⟨value, ⟨digits, most⟩, rfl⟩
      have fits : value ≤ Slab.maxInitialCapacity := most
      exact Option.bind_eq_some_iff.2
        ⟨value, digits_iff.1 digits, Config.guard_eq_some_iff.2 ⟨fits, rfl⟩⟩
  | maxConcurrentStreams =>
    constructor
    · intro assigned
      obtain ⟨value, read, done⟩ := Option.bind_eq_some_iff.1 assigned
      obtain ⟨⟨least, small⟩, rfl⟩ := Config.guard_eq_some_iff.1 done
      have same : (UInt32.ofNat value).toNat = value := UInt32.toNat_ofNat_of_lt' small
      refine ⟨.ofNat value, .streams ?_ ?_, rfl⟩
      · rw [same]
        exact digits_iff.2 read
      · rw [same]
        exact ⟨least, Nat.le_sub_one_of_lt small⟩
    · rintro ⟨value, writes, rfl⟩
      cases writes with
      | streams digits range =>
        have fits : 1 ≤ value.toNat ∧ value.toNat < UInt32.size := ⟨range.1, value.toNat_lt⟩
        refine Option.bind_eq_some_iff.2
          ⟨value.toNat, digits_iff.1 digits, Config.guard_eq_some_iff.2 ⟨fits, ?_⟩⟩
        rw [UInt32.ofNat_toNat]
        rfl
  | initialWindowSize =>
    constructor
    · intro assigned
      obtain ⟨value, read, done⟩ := Option.bind_eq_some_iff.1 assigned
      obtain ⟨⟨least, most⟩, rfl⟩ := Config.guard_eq_some_iff.1 done
      unfold maxWindow at most
      have same : (Int32.ofInt value).toInt = value := by
        apply Int32.toInt_ofInt_of_le <;> omega
      refine ⟨.ofInt value, .window ?_ ?_, rfl⟩
      · rw [same]
        exact signed_iff.2 read
      · rw [same]
        omega
    · rintro ⟨value, writes, rfl⟩
      cases writes with
      | window signed range =>
        have fits : 0 ≤ value.toInt ∧ value.toInt ≤ maxWindow := range
        refine Option.bind_eq_some_iff.2
          ⟨value.toInt, signed_iff.1 signed, Config.guard_eq_some_iff.2 ⟨fits, ?_⟩⟩
        rw [Int32.ofInt_toInt]
        rfl
  | echoEvents =>
    constructor
    · intro assigned
      obtain ⟨value, read, done⟩ := Option.bind_eq_some_iff.1 assigned
      cases done
      exact ⟨value, writes_echoEvents_iff.2 read, rfl⟩
    · rintro ⟨value, writes, rfl⟩
      exact Option.bind_eq_some_iff.2 ⟨value, writes_echoEvents_iff.1 writes, rfl⟩

/-- Reading fails on the lines at fault. -/
theorem offends_iff : Offends line error ↔ start.readLine line = .error error := by
  constructor
  · rintro (told | ⟨told, unknown⟩ | ⟨told, invalid⟩)
    · rw [Config.readLine, tells_iff.1 told]
    · rename_i key text
      have unnamed : Setting.ofKey? key = none := by
        rw [Option.eq_none_iff_forall_ne_some]
        exact fun setting found => unknown setting (Setting.ofKey?_eq_some_iff.1 found).symm
      rw [Config.readLine, tells_iff.1 told]
      simp only [unnamed]
    · rename_i setting text
      have refused : start.assign setting text = none := by
        rw [Option.eq_none_iff_forall_ne_some]
        intro next assigned
        obtain ⟨value, writes, -⟩ := assign_eq_some_iff.1 assigned
        exact invalid value writes
      rw [Config.readLine, tells_iff.1 told]
      simp only [Setting.ofKey?_key, refused]
  · intro failed
    unfold Config.readLine at failed
    split at failed
    · cases failed
    · rename_i malformed
      cases failed
      exact .malformed (tells_iff.2 malformed)
    · rename_i key text read
      have told := tells_iff.2 read
      split at failed
      · rename_i unnamed
        cases failed
        refine .unknownKey told fun setting same => ?_
        rw [same, Setting.ofKey?_key] at unnamed
        cases unnamed
      · rename_i setting found
        rw [← Setting.ofKey?_eq_some_iff.1 found] at told
        split at failed
        · rename_i refused
          cases failed
          refine .invalidValue told fun value writes => ?_
          rw [assign_eq_some_iff.2 ⟨value, writes, rfl⟩] at refused
          cases refused
        · cases failed

/-- A line that assigns a value to a setting sets it. -/
theorem readLine_of_assigns {value : setting.Value} (assigns : Assigns line setting value)
    (start : Config) : start.readLine line = .ok (start.put setting value) := by
  obtain ⟨text, told, writes⟩ := assigns
  rw [Config.readLine, tells_iff.1 told]
  simp only [Setting.ofKey?_key, assign_eq_some_iff.2 ⟨value, writes, rfl⟩]

/-- A line leaves each setting at the value that it assigns to it, or as it was. -/
theorem get_of_readLine (read : start.readLine line = .ok next) (setting : Setting) :
    (∀ value, Assigns line setting value → next.get setting = value) ∧
      ((∀ value, ¬Assigns line setting value) → next.get setting = start.get setting) := by
  refine ⟨fun value assigns => ?_, fun unassigned => ?_⟩
  · rw [readLine_of_assigns assigns] at read
    cases read
    exact Config.get_put_self ..
  · unfold Config.readLine at read
    split at read
    · cases read
      rfl
    · cases read
    · rename_i key text told
      split at read
      · cases read
      · rename_i named found
        split at read
        · cases read
        · rename_i after assigned
          cases read
          obtain ⟨value, writes, rfl⟩ := assign_eq_some_iff.1 assigned
          have told := tells_iff.2 told
          rw [← Setting.ofKey?_eq_some_iff.1 found] at told
          refine Config.get_put_of_ne ?_ ..
          rintro rfl
          exact unassigned value ⟨text, told, writes⟩

theorem leaves_nil_iff {value : setting.Value} :
    Leaves start [] setting value ↔ value = start.get setting := by
  constructor
  · rintro (none | ⟨split, assigns, last⟩)
    · rfl
    · simp at split
  · rintro rfl
    exact .unassigned nofun

/-- A line does its part before the lines that follow it. -/
theorem leaves_cons_iff (read : start.readLine line = .ok next) {value : setting.Value} :
    Leaves start (line :: lines) setting value ↔ Leaves next lines setting value := by
  obtain ⟨set, kept⟩ := get_of_readLine read setting
  constructor
  · rintro (none | @⟨before, after, here, _, split, assigns, last⟩)
    · obtain ⟨unassigned, none⟩ := List.forall_mem_cons.1 none
      rw [← kept unassigned]
      exact .unassigned none
    · cases before with
      | nil =>
        obtain ⟨rfl, rfl⟩ := List.cons.inj split
        rw [← set value assigns]
        exact .unassigned last
      | cons first before =>
        obtain ⟨rfl, rfl⟩ := List.cons.inj split
        exact .assigned rfl assigns last
  · rintro (none | @⟨before, after, here, _, split, assigns, last⟩)
    · by_cases assigned : ∃ value, Assigns line setting value
      · obtain ⟨value, assigns⟩ := assigned
        rw [set value assigns]
        exact .assigned (List.nil_append _).symm assigns none
      · have unassigned := not_exists.1 assigned
        rw [kept unassigned]
        exact .unassigned (List.forall_mem_cons.2 ⟨unassigned, none⟩)
    · have whole : line :: lines = (line :: before) ++ here :: after := congrArg (line :: ·) split
      exact .assigned whole assigns last

/-- The first line at fault decides. -/
theorem amounts_cons_of_error {result : Except ConfigError Config}
    (failed : start.readLine line = .error error) :
    Amounts start (line :: lines) result ↔ .error error = result := by
  have offends : Offends line error := offends_iff.2 failed
  constructor
  · rintro (@⟨before, after, here, other, split, first, offends'⟩ | ⟨faultless, leaves⟩)
    · cases before with
      | nil =>
        obtain ⟨rfl, rfl⟩ := List.cons.inj split
        have failed' : start.readLine line = .error other := offends_iff.1 offends'
        rw [← failed, failed']
      | cons earlier before =>
        obtain ⟨rfl, rfl⟩ := List.cons.inj split
        exact absurd offends (first line List.mem_cons_self error)
    · exact absurd offends (faultless line List.mem_cons_self error)
  · rintro rfl
    exact .rejected (List.nil_append _).symm (List.forall_mem_nil _) offends

/-- A line without fault does its part before the lines that follow it. -/
theorem amounts_cons_of_ok {result : Except ConfigError Config}
    (read : start.readLine line = .ok next) :
    Amounts start (line :: lines) result ↔ Amounts next lines result := by
  have faultless (error : ConfigError) : ¬Offends line error := by
    intro offends
    have failed : start.readLine line = .error error := offends_iff.1 offends
    rw [read] at failed
    cases failed
  constructor
  · rintro (@⟨before, after, here, other, split, first, offends⟩ | ⟨faultless', leaves⟩)
    · cases before with
      | nil =>
        obtain ⟨rfl, rfl⟩ := List.cons.inj split
        exact absurd offends (faultless other)
      | cons earlier before =>
        obtain ⟨rfl, rfl⟩ := List.cons.inj split
        exact .rejected rfl (List.forall_mem_cons.1 first).2 offends
    · exact .accepted (List.forall_mem_cons.1 faultless').2 fun setting =>
        (leaves_cons_iff read).1 (leaves setting)
  · rintro (@⟨before, after, here, other, split, first, offends⟩ | ⟨faultless', leaves⟩)
    · have whole : line :: lines = (line :: before) ++ here :: after := congrArg (line :: ·) split
      exact .rejected whole (List.forall_mem_cons.2 ⟨faultless, first⟩) offends
    · exact .accepted (List.forall_mem_cons.2 ⟨faultless, faultless'⟩) fun setting =>
        (leaves_cons_iff read).2 (leaves setting)

/-- Lines that are read one on top of the other amount to what the grammar has them amount to. -/
theorem amounts_iff {result : Except ConfigError Config} :
    Amounts start lines result ↔ lines.foldlM Config.readLine start = result := by
  induction lines generalizing start with
  | nil =>
    constructor
    · rintro (⟨split, -, -⟩ | ⟨-, leaves⟩)
      · simp at split
      · exact congrArg Except.ok
          (Config.ext_get fun setting => (leaves_nil_iff.1 (leaves setting)).symm)
    · rintro rfl
      exact .accepted nofun fun setting => leaves_nil_iff.2 rfl
  | cons line rest ih =>
    rw [List.foldlM_cons]
    cases read : start.readLine line with
    | error error => exact amounts_cons_of_error read
    | ok next => exact (amounts_cons_of_ok read).trans ih

/-- A text is read as the settings that it means. -/
theorem means_iff {result : Except ConfigError Config} :
    Means text result ↔ Config.parse text = result := by
  constructor
  · rintro ⟨lines, split, amounts⟩
    rw [← amounts_iff.1 amounts, ← lines_iff.1 split]
    rfl
  · rintro rfl
    exact ⟨_, lines_iff.2 rfl, amounts_iff.2 rfl⟩

end Grammar

/-- Of any bytes the settings are read that their text means. -/
theorem Config.ofBytes_eq_iff (bytes : ByteArray) (result : Except ConfigError Config) :
    ofBytes bytes = result ↔ Grammar.Means (Grammar.characters bytes) result :=
  Grammar.means_iff.symm

/-- The last assignment counts, up to the comment, and minus zero is zero. -/
example : Config.parse "initial_window_size = 9\n\tinitial_window_size=-00 # = 8\r".toList =
    .ok { initialWindowSize := 0 } := by decide

end StreamMux
