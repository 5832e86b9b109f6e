import HeatingBus.Log.Basic
import HeatingBus.Telegram

/-!
# Telegram dumps

A `TelegramLogger` turns the frames that pass by into lines: as bytes, as a telegram, or both. A
frame that holds no telegram is always shown as bytes, with the reason.
-/

namespace HeatingBus

open Text

inductive LoggingMode where
  | off
  | raw
  | interpreted
  | both
  deriving Repr, DecidableEq

namespace LoggingMode

def all : List LoggingMode := [off, raw, interpreted, both]

def name : LoggingMode → String
  | off => "off"
  | raw => "raw"
  | interpreted => "interpreted"
  | both => "both"

def label : LoggingMode → String
  | off => "Off"
  | raw => "Raw"
  | interpreted => "Interpreted"
  | both => "Both"

def ofName? (name : String) : Option LoggingMode :=
  all.find? (·.name = name)

end LoggingMode

inductive LogTarget where
  | nowhere
  /-- To the embedding application. -/
  | listener
  /-- Into the diagnostics of the library, with a mark before them. -/
  | diagnostics
  deriving Repr, DecidableEq

structure TelegramLogger where
  target : LogTarget
  /-- The level of the least grave lines that are passed on. -/
  minLevel : LogLevel
  mode : LoggingMode
  deriving Repr, DecidableEq

namespace TelegramLogger

def disabled : TelegramLogger := ⟨.nowhere, .error, .off⟩

def toDiagnostics (mode : LoggingMode) : TelegramLogger := ⟨.diagnostics, .debug, mode⟩

def hasTarget (logger : TelegramLogger) : Bool :=
  logger.target != .nowhere

def isEnabled (logger : TelegramLogger) : Bool :=
  logger.hasTarget && logger.mode != .off

def rawText (direction : String) (frame : Bytes) : String :=
  s!"{direction} raw ({frame.length} bytes): " ++ hexSpaced frame

def linesOfMode (mode : LoggingMode) (direction : String) (frame : Bytes) : List LogEntry :=
  let raw := rawText direction frame
  match Telegram.parse frame with
  | .error error => [.warn s!"{raw} ({error.message})"]
  | .ok telegram =>
    let interpreted := LogEntry.info s!"{direction} {telegram.describe}"
    match mode with
    | .off => []
    | .raw => [.info raw]
    | .interpreted => [interpreted]
    | .both => [interpreted, .debug raw]

/-- The lines of a frame that goes in a direction, `RX` or `TX`. -/
def lines (logger : TelegramLogger) (direction : String) (frame : Bytes) : List LogEntry :=
  if logger.isEnabled then
    (linesOfMode logger.mode direction frame).filter (·.level.rank ≤ logger.minLevel.rank)
  else []

def marked (entry : LogEntry) : LogEntry :=
  { entry with text := "[EMS] " ++ entry.text }

def describe (logger : TelegramLogger) : String :=
  "TelegramLogger \x7b enabled: " ++ (if logger.hasTarget then "true" else "false") ++
    ", min_level: " ++ logger.minLevel.name ++ ", mode: " ++ logger.mode.label ++ " \x7d"

end TelegramLogger

end HeatingBus
