import StreamMux.Stream.Basic

/-!
# Connection settings
-/

namespace StreamMux

structure Config where
  /-- Slots to make room for at set-up. -/
  initialCapacity : Nat := 64
  /-- How many streams may be open at once. -/
  maxConcurrentStreams : UInt32 := 100
  /-- The credit of a new stream in both directions. -/
  initialWindowSize : Int32 := defaultWindow
  /-- Whether events are printed. -/
  echoEvents : Bool := false
  deriving DecidableEq, Repr

def Config.defaults : Config := {}

inductive ConfigError where
  | fileNotFound
  | malformed
  | unknownKey
  | invalidValue
  deriving DecidableEq, Repr

namespace ConfigError

/-- The errors in the order of their codes, which begin at 1. -/
def all : List ConfigError := [fileNotFound, malformed, unknownKey, invalidValue]

def name : ConfigError → String
  | fileNotFound => "file_not_found"
  | malformed => "malformed"
  | unknownKey => "unknown_key"
  | invalidValue => "invalid_value"

end ConfigError

inductive Setting where
  | initialCapacity
  | maxConcurrentStreams
  | initialWindowSize
  | echoEvents
  deriving DecidableEq, Repr

namespace Setting

def all : List Setting := [initialCapacity, maxConcurrentStreams, initialWindowSize, echoEvents]

def key : Setting → String
  | initialCapacity => "initial_capacity"
  | maxConcurrentStreams => "max_concurrent_streams"
  | initialWindowSize => "initial_window_size"
  | echoEvents => "echo_events"

def ofKey? (name : List Char) : Option Setting :=
  all.find? fun setting => setting.key.toList == name

@[simp] theorem ofKey?_key (setting : Setting) : ofKey? setting.key.toList = some setting := by
  cases setting <;> decide

end Setting

end StreamMux
