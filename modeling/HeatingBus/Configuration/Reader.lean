import HeatingBus.Configuration.Basic
import HeatingBus.Configuration.Document

/-!
# Reading a configuration

A configuration from the text of a document or from a file. Everything has a default, so an empty
document is a configuration. The kind of a file is told by the end of its name.
-/

namespace HeatingBus

open ConfigDocument

namespace TransportConfig

def keys : List (List String) :=
  [["inbound_queue"], ["outbound_queue"], ["capacity"], ["max_frame"],
    ["retry_interval_ms", "retry_interval"], ["receive_timeout_ms"], ["boiler_address"]]

def ofDocument? (document : ConfigDocument) : Option TransportConfig := do
  let standard : TransportConfig := {}
  let size? := number? greatestNumber
  match ← document.parts? keys with
  | [inbound, outbound, capacity, maxFrame, retry, receive, boiler] =>
    return {
      inboundQueue := ← valueOr standard.inboundQueue text? inbound
      outboundQueue := ← valueOr standard.outboundQueue text? outbound
      capacity := ← valueOr standard.capacity size? capacity
      maxFrame := ← valueOr standard.maxFrame size? maxFrame
      retryInterval := ← valueOr standard.retryInterval size? retry
      receiveTimeout := ← valueOr standard.receiveTimeout size? receive
      boilerAddress := ← valueOr standard.boilerAddress byte? boiler }
  | _ => none

end TransportConfig

namespace EngineConfig

def keys : List (List String) :=
  [["link"], ["client_id"], ["log_level"], ["telegram_logging"], ["transport"]]

/-- The settings of a document, whether they keep the rules or not. -/
def ofDocument? (document : ConfigDocument) : Option EngineConfig := do
  let standard : EngineConfig := {}
  let mode? (part : ConfigDocument) := part.choice?.bind LoggingMode.ofName?
  match ← document.parts? keys with
  | [link, clientId, logLevel, telegramLogging, transport] =>
    return {
      link := ← valueOr standard.link text? link
      clientId := ← valueOr standard.clientId byte? clientId
      logLevel := ← valueOr standard.logLevel byte? logLevel
      telegramLogging := ← valueOr standard.telegramLogging mode? telegramLogging
      transport := ← valueOr standard.transport TransportConfig.ofDocument? transport }
  | _ => none

def ofText? (kind : DocumentKind) (text : String) : Option EngineConfig := do
  ofDocument? (← ConfigDocument.parse? kind text)

def parse (kind : DocumentKind) (text : String) : Except BusError EngineConfig :=
  match ofText? kind text with
  | some config => config.validated
  | none => .error (.configuration (.unreadableDocument kind))

/-! ## Files -/

def fileName (path : String) : List Char :=
  (path.toList.reverse.takeWhile (· ≠ '/')).reverse

/-- What follows the last dot of a file name, unless the name starts with it. -/
def extension? (path : String) : Option String :=
  let reversed := (fileName path).reverse
  let suffix := reversed.takeWhile (· ≠ '.')
  if suffix.length + 1 < reversed.length then some (String.ofList suffix.reverse) else none

def documentKind? (path : String) : Option DocumentKind :=
  match extension? path with
  | some "yaml" | some "yml" => some .yaml
  | some "json" => some .json
  | _ => none

def load (path : String) (content : Except String String) : Except BusError EngineConfig :=
  match content with
  | .error reason => .error (.configuration (.unreadableFile path reason))
  | .ok text =>
    match documentKind? path with
    | some kind => parse kind text
    | none => .error (.configuration (.unsupportedFormat path))

end EngineConfig

end HeatingBus
