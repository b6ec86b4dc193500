import StreamMux.Config.Basic
import StreamMux.Text.Decimal

/-!
# Reading settings

Settings are lines of the form `key = value`. A `#` begins a comment, blank
lines mean nothing, and a later line overrides an earlier one. The first line
that breaks a rule decides the error. Main statement: text is read line by
line, so that what follows a line end is read on top of what precedes it
(`Config.parse_append_newline`).
-/

namespace StreamMux

inductive ConfigLine where
  | blank
  | malformed
  | assignment (key value : List Char)
  deriving DecidableEq, Repr

namespace ConfigLine

def isBlank (c : Char) : Bool := c == ' ' || c == '\t' || c == '\r'

def trim (text : List Char) : List Char :=
  ((text.dropWhile isBlank).reverse.dropWhile isBlank).reverse

/-- Reads one line, which is divided at its first equals sign. -/
def read (line : List Char) : ConfigLine :=
  let content := trim (line.takeWhile (· != '#'))
  if content.isEmpty then .blank
  else
    match content.dropWhile (· != '=') with
    | [] => .malformed
    | _ :: right =>
      let key := trim (content.takeWhile (· != '='))
      let value := trim right
      if key.isEmpty || value.isEmpty then .malformed else .assignment key value

end ConfigLine

namespace Config

def boolean? (word : List Char) : Option Bool :=
  if ["true", "1", "yes", "on"].any (·.toList == word) then some true
  else if ["false", "0", "no", "off"].any (·.toList == word) then some false
  else none

/-- Gives a setting the value that is written, unless it is no value of that setting. -/
def assign (config : Config) : Setting → List Char → Option Config
  | .initialCapacity, text => do
    let value ← Decimal.natural? text
    guard (value ≤ Slab.maxInitialCapacity)
    return { config with initialCapacity := value }
  | .maxConcurrentStreams, text => do
    let value ← Decimal.natural? text
    guard (1 ≤ value ∧ value < UInt32.size)
    return { config with maxConcurrentStreams := .ofNat value }
  | .initialWindowSize, text => do
    let value ← Decimal.integer? text
    guard (0 ≤ value ∧ value ≤ maxWindow)
    return { config with initialWindowSize := .ofInt value }
  | .echoEvents, text => do
    return { config with echoEvents := ← boolean? text }

/-- Reads one line on top of the settings so far. -/
def readLine (config : Config) (line : List Char) : Except ConfigError Config :=
  match ConfigLine.read line with
  | .blank => .ok config
  | .malformed => .error .malformed
  | .assignment key value =>
    match Setting.ofKey? key with
    | none => .error .unknownKey
    | some setting =>
      match config.assign setting value with
      | none => .error .invalidValue
      | some config => .ok config

def readLines (config : Config) (text : List Char) : Except ConfigError Config :=
  (text.splitOn '\n').foldlM readLine config

/-- Reads settings; what is not given keeps its default. -/
def parse (text : List Char) : Except ConfigError Config := defaults.readLines text

/-- Reads settings from bytes. Only ASCII has a meaning, so each byte is read as
the character of its number. -/
def ofBytes (bytes : ByteArray) : Except ConfigError Config :=
  parse (bytes.data.toList.map fun byte => Char.ofNat byte.toNat)

def ofFile : Option ByteArray → Except ConfigError Config
  | none => .error .fileNotFound
  | some contents => ofBytes contents

/-- What follows a line end is read on top of what precedes it. -/
theorem readLines_append_newline (config : Config) (a b : List Char) :
    config.readLines (a ++ '\n' :: b) = (config.readLines a >>= (·.readLines b)) := by
  simp only [readLines, List.splitOn_append_cons_self, List.foldlM_append]

theorem parse_append_newline (a b : List Char) :
    parse (a ++ '\n' :: b) = (parse a >>= (·.readLines b)) :=
  readLines_append_newline ..

/-- A blank line changes nothing. -/
theorem readLine_blank {config : Config} {line : List Char} (h : ConfigLine.read line = .blank) :
    config.readLine line = .ok config := by
  rw [readLine, h]

end Config

end StreamMux
