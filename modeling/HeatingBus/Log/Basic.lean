/-!
# Diagnostics

What the library says while it works: lines of text at four levels.
-/

namespace HeatingBus

/-- How grave a line is, the gravest first. -/
inductive LogLevel where
  | error
  | warn
  | info
  | debug
  deriving Repr, DecidableEq

namespace LogLevel

def all : List LogLevel := [error, warn, info, debug]

def name : LogLevel → String
  | error => "Error"
  | warn => "Warn"
  | info => "Info"
  | debug => "Debug"

def rank : LogLevel → Nat
  | error => 0
  | warn => 1
  | info => 2
  | debug => 3

end LogLevel

structure LogEntry where
  level : LogLevel
  text : String
  deriving Repr, DecidableEq

namespace LogEntry

def error (text : String) : LogEntry := ⟨.error, text⟩

def warn (text : String) : LogEntry := ⟨.warn, text⟩

def info (text : String) : LogEntry := ⟨.info, text⟩

def debug (text : String) : LogEntry := ⟨.debug, text⟩

end LogEntry

end HeatingBus
