/-!
# StubGen.Log

Records of what was done, by level of importance.
-/

namespace StubGen

/-- The importance of a record. -/
inductive LogLevel where
  | debug
  | info
  | warning
  | error
deriving DecidableEq, Repr

def LogLevel.rank : LogLevel → Nat
  | .debug => 0
  | .info => 1
  | .warning => 2
  | .error => 3

def LogLevel.name : LogLevel → String
  | .debug => "DEBUG"
  | .info => "INFO"
  | .warning => "WARNING"
  | .error => "ERROR"

def LogLevel.ofName? (name : String) : Option LogLevel :=
  [LogLevel.debug, .info, .warning, .error].find? fun level => level.name == name

structure LogRecord where
  level : LogLevel
  message : String
deriving DecidableEq, Repr

namespace LogRecord

def debug (message : String) : LogRecord := ⟨.debug, message⟩

def info (message : String) : LogRecord := ⟨.info, message⟩

def warning (message : String) : LogRecord := ⟨.warning, message⟩

def error (message : String) : LogRecord := ⟨.error, message⟩

end LogRecord

/-- The records of at least the given importance. -/
def recordsFrom (least : LogLevel) (records : List LogRecord) : List LogRecord :=
  records.filter fun entry => least.rank ≤ entry.level.rank

end StubGen
