import Mathlib.Data.List.DropRight
import Mathlib.Data.Nat.Digits.Defs
import StreamMux.Config.Parser
import StreamMux.Proofs.Text.Fields

/-!
# The grammar of settings

What a text of settings is, said without a word on how it is read: where its lines end, what counts
of a line, which numbers and words are values of a setting, which line decides a setting and which
line is at fault (`Grammar.Means`). A line is read as the grammar has it (`Grammar.tells_iff`).
-/

namespace StreamMux

namespace Grammar

/-- The text of bytes; each is the character of its number. -/
def characters (bytes : ByteArray) : List Char :=
  bytes.data.toList.map fun byte => Char.ofNat byte.toNat

/-- The text is the lines one after the other, with a line end between them. -/
inductive Lines : List Char → List (List Char) → Prop where
  | last {line : List Char} (whole : '\n' ∉ line) : Lines line [line]
  | more {line rest : List Char} {lines : List (List Char)} (whole : '\n' ∉ line)
    (following : Lines rest lines) : Lines (line ++ '\n' :: rest) (line :: lines)

def Blank (c : Char) : Prop := c = ' ' ∨ c = '\t' ∨ c = '\r'

/-- `core` is the text without the blanks at both ends. -/
structure Stripped (text core : List Char) : Prop where
  within : ∃ before after, text = before ++ core ++ after ∧ (∀ c ∈ before, Blank c) ∧
    ∀ c ∈ after, Blank c
  first : ∀ c ∈ core.head?, ¬Blank c
  last : ∀ c ∈ core.getLast?, ¬Blank c

/-- `kept` is the line up to its comment, which begins with the first `#`. -/
structure Uncommented (line kept : List Char) : Prop where
  plain : '#' ∉ kept
  upTo : line = kept ∨ ∃ comment, line = kept ++ '#' :: comment

def Content (line content : List Char) : Prop :=
  ∃ kept, Uncommented line kept ∧ Stripped kept content

/-- What a line tells. It is divided at its first equals sign. -/
inductive Tells (line : List Char) : ConfigLine → Prop where
  | blank (empty : Content line []) : Tells line .blank
  | undivided {content : List Char} (counts : Content line content) (nonempty : content ≠ [])
    (undivided : '=' ∉ content) : Tells line .malformed
  | incomplete {left right key value : List Char} (counts : Content line (left ++ '=' :: right))
    (first : '=' ∉ left) (before : Stripped left key) (after : Stripped right value)
    (missing : key = [] ∨ value = []) : Tells line .malformed
  | assignment {left right key value : List Char} (counts : Content line (left ++ '=' :: right))
    (first : '=' ∉ left) (before : Stripped left key) (after : Stripped right value)
    (named : key ≠ []) (given : value ≠ []) : Tells line (.assignment key value)

/-- One decimal digit or more, which are worth `value`. -/
structure Digits (text : List Char) (value : Nat) : Prop where
  nonempty : text ≠ []
  digits : ∀ c ∈ text, '0' ≤ c ∧ c ≤ '9'
  worth : Nat.ofDigits 10 (text.reverse.map fun c => c.toNat - '0'.toNat) = value

/-- Decimal digits after a minus sign or none. -/
inductive Signed : List Char → Int → Prop where
  | positive {text : List Char} {value : Nat} (digits : Digits text value) : Signed text value
  | negative {text : List Char} {value : Nat} (digits : Digits text value) :
    Signed ('-' :: text) (-value)

end Grammar

@[reducible] def Setting.Value : Setting → Type
  | .initialCapacity => Nat
  | .maxConcurrentStreams => UInt32
  | .initialWindowSize => Int32
  | .echoEvents => Bool

namespace Config

def get (config : Config) : (setting : Setting) → setting.Value
  | .initialCapacity => config.initialCapacity
  | .maxConcurrentStreams => config.maxConcurrentStreams
  | .initialWindowSize => config.initialWindowSize
  | .echoEvents => config.echoEvents

def put (config : Config) : (setting : Setting) → setting.Value → Config
  | .initialCapacity, value => { config with initialCapacity := value }
  | .maxConcurrentStreams, value => { config with maxConcurrentStreams := value }
  | .initialWindowSize, value => { config with initialWindowSize := value }
  | .echoEvents, value => { config with echoEvents := value }

variable {config other : Config} {setting : Setting}

@[simp] theorem get_put_self (config : Config) (setting : Setting) (value : setting.Value) :
    (config.put setting value).get setting = value := by
  cases setting <;> rfl

theorem get_put_of_ne {another : Setting} (apart : another ≠ setting) (config : Config)
    (value : setting.Value) : (config.put setting value).get another = config.get another := by
  cases setting <;> cases another <;> first | rfl | exact absurd rfl apart

/-- Settings that agree setting by setting are the same. -/
theorem ext_get (same : ∀ setting, config.get setting = other.get setting) : config = other := by
  have capacity : config.initialCapacity = other.initialCapacity := same .initialCapacity
  have streams : config.maxConcurrentStreams = other.maxConcurrentStreams :=
    same .maxConcurrentStreams
  have window : config.initialWindowSize = other.initialWindowSize := same .initialWindowSize
  have echo : config.echoEvents = other.echoEvents := same .echoEvents
  cases config
  cases other
  simp_all

end Config

namespace Grammar

/-- The text writes a value of the setting. -/
inductive Writes : (setting : Setting) → List Char → setting.Value → Prop where
  | capacity {text : List Char} {value : Nat} (digits : Digits text value)
    (most : value ≤ 2 ^ 20) : Writes .initialCapacity text value
  | streams {text : List Char} {value : UInt32} (digits : Digits text value.toNat)
    (range : 1 ≤ value.toNat ∧ value.toNat ≤ 2 ^ 32 - 1) : Writes .maxConcurrentStreams text value
  | window {text : List Char} {value : Int32} (signed : Signed text value.toInt)
    (range : 0 ≤ value.toInt ∧ value.toInt ≤ 2 ^ 31 - 1) : Writes .initialWindowSize text value
  | yes {text : List Char} (word : text ∈ ["true", "1", "yes", "on"].map String.toList) :
    Writes .echoEvents text true
  | no {text : List Char} (word : text ∈ ["false", "0", "no", "off"].map String.toList) :
    Writes .echoEvents text false

def Assigns (line : List Char) (setting : Setting) (value : setting.Value) : Prop :=
  ∃ text, Tells line (.assignment setting.key.toList text) ∧ Writes setting text value

inductive Offends (line : List Char) : ConfigError → Prop where
  | malformed (told : Tells line .malformed) : Offends line .malformed
  | unknownKey {key text : List Char} (told : Tells line (.assignment key text))
    (unknown : ∀ setting : Setting, key ≠ setting.key.toList) : Offends line .unknownKey
  | invalidValue {setting : Setting} {text : List Char}
    (told : Tells line (.assignment setting.key.toList text))
    (invalid : ∀ value, ¬Writes setting text value) : Offends line .invalidValue

/-- The lines leave the setting at the value: the last line that assigns it decides, and where there
is none, the setting stays as it was. -/
inductive Leaves (start : Config) (lines : List (List Char)) (setting : Setting) :
    setting.Value → Prop where
  | unassigned (none : ∀ line ∈ lines, ∀ value, ¬Assigns line setting value) :
    Leaves start lines setting (start.get setting)
  | assigned {before after : List (List Char)} {line : List Char} {value : setting.Value}
    (split : lines = before ++ line :: after) (assigns : Assigns line setting value)
    (last : ∀ later ∈ after, ∀ other, ¬Assigns later setting other) :
    Leaves start lines setting value

/-- What lines amount to on top of the settings so far: the error of the first line at fault, or
else what they leave each setting at. -/
inductive Amounts (start : Config) (lines : List (List Char)) :
    Except ConfigError Config → Prop where
  | rejected {before after : List (List Char)} {line : List Char} {error : ConfigError}
    (split : lines = before ++ line :: after)
    (first : ∀ earlier ∈ before, ∀ other, ¬Offends earlier other) (offends : Offends line error) :
    Amounts start lines (.error error)
  | accepted {config : Config} (faultless : ∀ line ∈ lines, ∀ error, ¬Offends line error)
    (leaves : ∀ setting, Leaves start lines setting (config.get setting)) :
    Amounts start lines (.ok config)

def Means (text : List Char) (result : Except ConfigError Config) : Prop :=
  ∃ lines, Lines text lines ∧ Amounts .defaults lines result

variable {text line content core kept : List Char} {lines : List (List Char)}

/-- There is one way to tell the lines of a text apart. -/
theorem lines_iff : Lines text lines ↔ text.splitOn '\n' = lines := by
  constructor
  · intro told
    induction told with
    | last whole => exact List.splitOn_eq_singleton whole
    | more whole following ih =>
      rw [List.splitOn_append_cons_self, List.splitOn_eq_singleton whole, ih, List.singleton_append]
  · rintro rfl
    -- By induction on the length, as each line takes a part off the text.
    generalize size : text.length = n
    induction n using Nat.strong_induction_on generalizing text with
    | _ n ih =>
      by_cases ended : '\n' ∈ text
      · obtain ⟨line, rest, rfl, whole⟩ := List.eq_append_cons_of_mem ended
        rw [List.splitOn_append_cons_self, List.splitOn_eq_singleton whole, List.singleton_append]
        have shorter : rest.length < n := by
          rw [← size, List.length_append, List.length_cons]
          omega
        exact .more whole (ih _ shorter rfl)
      · rw [List.splitOn_eq_singleton ended]
        exact .last ended

theorem blank_iff {c : Char} : ConfigLine.isBlank c = true ↔ Blank c := by
  simp [ConfigLine.isBlank, Blank, or_assoc]

/-- What is dropped from the front ends where it has to. -/
theorem head?_dropWhile {p : Char → Bool} {c : Char} (first : c ∈ (text.dropWhile p).head?) :
    p c = false := by
  have rest := List.head?_dropWhile_not p text
  rwa [Option.mem_def.1 first] at rest

theorem dropWhile_of_head? {p : Char → Bool} (first : ∀ c ∈ text.head?, p c = false) :
    text.dropWhile p = text := by
  cases text with
  | nil => rfl
  | cons c rest => exact List.dropWhile_cons_of_neg (by simp [first c rfl])

/-- Trimming is stripping. -/
theorem stripped_iff : Stripped text core ↔ ConfigLine.trim text = core := by
  have blank {c : Char} : ConfigLine.isBlank c = false ↔ ¬Blank c := by
    rw [← blank_iff, Bool.not_eq_true]
  constructor
  · rintro ⟨⟨before, after, rfl, blanks, blanks'⟩, first, last⟩
    have front : (before ++ core ++ after).dropWhile ConfigLine.isBlank =
        (core ++ after).dropWhile ConfigLine.isBlank := by
      rw [List.append_assoc]
      exact List.dropWhile_append_of_pos fun c member => blank_iff.2 (blanks c member)
    have back : (core ++ after).reverse.dropWhile ConfigLine.isBlank = core.reverse := by
      rw [List.reverse_append, List.dropWhile_append_of_pos fun c member =>
        blank_iff.2 (blanks' c (List.mem_reverse.1 member))]
      refine dropWhile_of_head? fun c member => blank.2 (last c ?_)
      rwa [List.head?_reverse] at member
    rw [ConfigLine.trim, front]
    cases core with
    | nil =>
      have none : after.dropWhile ConfigLine.isBlank = [] :=
        List.dropWhile_eq_nil_iff.2 fun c member => blank_iff.2 (blanks' c member)
      rw [List.nil_append, none]
      rfl
    | cons c rest =>
      have stays : (c :: rest ++ after).dropWhile ConfigLine.isBlank = c :: rest ++ after :=
        List.dropWhile_cons_of_neg (by simp [blank.2 (first c rfl)])
      rw [stays, back, List.reverse_reverse]
  · rintro rfl
    have blanks (text : List Char) : ∀ c ∈ text.takeWhile ConfigLine.isBlank, Blank c :=
      fun c member => blank_iff.1 (List.mem_takeWhile_imp member)
    let after := ((text.dropWhile ConfigLine.isBlank).reverse.takeWhile ConfigLine.isBlank).reverse
    have rest : text.dropWhile ConfigLine.isBlank = ConfigLine.trim text ++ after := by
      rw [ConfigLine.trim, ← List.reverse_append, List.takeWhile_append_dropWhile,
        List.reverse_reverse]
    have whole : text = text.takeWhile ConfigLine.isBlank ++ ConfigLine.trim text ++ after := by
      rw [List.append_assoc, ← rest, List.takeWhile_append_dropWhile]
    refine ⟨⟨_, after, whole, blanks text, fun c member => blanks _ c (List.mem_reverse.1 member)⟩,
      fun c member => blank.1 (@head?_dropWhile text _ c ?_), fun c member => ?_⟩
    · rw [rest, List.head?_append, Option.mem_def.1 member]
      rfl
    · rw [ConfigLine.trim, List.getLast?_reverse] at member
      exact blank.1 (head?_dropWhile member)

theorem uncommented_iff : Uncommented line kept ↔ line.takeWhile (· != '#') = kept := by
  constructor
  · rintro ⟨plain, rfl | ⟨comment, rfl⟩⟩
    · exact List.takeWhile_eq_self_iff.2 (ne_mark plain)
    · exact takeWhile_mark plain comment
  · rintro rfl
    by_cases commented : '#' ∈ line
    · obtain ⟨kept, comment, rfl, plain⟩ := List.eq_append_cons_of_mem commented
      rw [takeWhile_mark plain]
      exact ⟨plain, .inr ⟨comment, rfl⟩⟩
    · rw [List.takeWhile_eq_self_iff.2 (ne_mark commented)]
      exact ⟨commented, .inl rfl⟩

theorem content_iff :
    Content line content ↔ ConfigLine.trim (line.takeWhile (· != '#')) = content := by
  constructor
  · rintro ⟨kept, uncommented, stripped⟩
    rw [uncommented_iff.1 uncommented, stripped_iff.1 stripped]
  · intro same
    exact ⟨_, uncommented_iff.2 rfl, stripped_iff.2 same⟩

/-- A line is read as the grammar has it. -/
theorem tells_iff {told : ConfigLine} : Tells line told ↔ ConfigLine.read line = told := by
  have divided {left right key value : List Char} (counts : Content line (left ++ '=' :: right))
      (first : '=' ∉ left) (before : Stripped left key) (after : Stripped right value) :
      ConfigLine.read line =
        if key.isEmpty || value.isEmpty then .malformed else .assignment key value := by
    rw [ConfigLine.read, content_iff.1 counts]
    simp [dropWhile_mark first, takeWhile_mark first, stripped_iff.1 before,
      stripped_iff.1 after]
  constructor
  · rintro (empty | ⟨counts, nonempty, undivided⟩ | ⟨counts, first, before, after, missing⟩ |
      ⟨counts, first, before, after, named, given⟩)
    · rw [ConfigLine.read, content_iff.1 empty]
      rfl
    · rw [ConfigLine.read, content_iff.1 counts]
      simp [nonempty, List.dropWhile_eq_nil_iff.2 (ne_mark undivided)]
    · rw [divided counts first before after]
      rcases missing with rfl | rfl <;> simp
    · rw [divided counts first before after]
      simp [named, given]
  · rintro rfl
    have counts : Content line _ := content_iff.2 rfl
    generalize ConfigLine.trim (line.takeWhile (· != '#')) = content at counts
    by_cases equals : '=' ∈ content
    · obtain ⟨left, right, rfl, first⟩ := List.eq_append_cons_of_mem equals
      have before : Stripped left _ := stripped_iff.2 rfl
      have after : Stripped right _ := stripped_iff.2 rfl
      rw [divided counts first before after]
      split
      · rename_i missing
        exact .incomplete counts first before after (by simpa using missing)
      · rename_i complete
        obtain ⟨named, given⟩ : ConfigLine.trim left ≠ [] ∧ ConfigLine.trim right ≠ [] := by
          simpa using complete
        exact .assignment counts first before after named given
    · rw [ConfigLine.read, content_iff.1 counts]
      dsimp only
      rw [List.dropWhile_eq_nil_iff.2 (ne_mark equals)]
      split
      · rename_i empty
        exact .blank (List.isEmpty_iff.1 empty ▸ counts)
      · rename_i nonempty
        exact .undivided counts (by simpa using nonempty) equals

end Grammar

end StreamMux
