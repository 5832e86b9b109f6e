import HeatingBus.About
import HeatingBus.Catalog.KnownMessages
import HeatingBus.Catalog.KnownProducts
import HeatingBus.Configuration.Reader
import HeatingBus.Engine.ReceiveLoop
import HeatingBus.Engine.Write

/-!
# The bus monitor

The command line: it runs the engine against the bus driver and prints every device that is found
and every value that changes. Its only argument is the name of a configuration file.
-/

namespace HeatingBus.Monitor

open Text

def linkLine (config : EngineConfig) : String :=
  s!"Link {config.link} as 0x" ++ hexByte config.clientId ++
    s!", queues {config.transport.inboundQueue} / {config.transport.outboundQueue}"

/-- The lines about an engine that has stopped, with its counters in the order of their names. -/
def summary (engine : Engine) : List String :=
  let counters := engine.transport.stats.mergeSort fun one other => one.1 ≤ other.1
  ["", "📊 Statistics:"] ++
    counters.map (fun (name, count) => "  " ++ padRight 20 name ++ s!" {count}") ++
    engine.registry.devices.map fun device =>
      "  device 0x" ++ hexByte device.address ++ s!": {device.productName}"

def configuration (arguments : List String) : IO (Except BusError EngineConfig) := do
  match arguments with
  | [] => return .ok {}
  | path :: _ =>
    IO.println s!"Loading configuration from {path}"
    try return EngineConfig.load path (.ok (← IO.FS.readFile path))
    catch error => return EngineConfig.load path (.error error.toString)

def linkExists (link : String) : IO Bool := do
  try
    discard (IO.FS.realPath link)
    return true
  catch _ => return false

def flush (engine : Engine) : IO Engine := do
  let journal := engine.transport.journal
  for entry in journal.trace do
    if entry.level.rank ≤ LogLevel.info.rank then
      IO.eprintln s!"{entry.level.name}: {entry.text}"
  return { engine with transport := { engine.transport with journal := ⟨[], []⟩ } }

partial def follow (engine : Engine) (loop : ReceiveLoop) : IO Engine := do
  if loop.isFinished then return engine
  if loop.isOpening then IO.sleep (UInt32.ofNat engine.config.transport.retryInterval)
  else if engine.isIdle loop then IO.sleep (UInt32.ofNat engine.config.transport.receiveTimeout)
  let step := engine.advance loop
  for event in step.event.toList do
    for line in event.lines do IO.println line
  follow (← flush step.engine) step.loop

def engineOf (config : EngineConfig) (isPresent : Bool) : Except BusError Engine := do
  let transport := Transport.new config (.outside fun _ => isPresent) .empty
  Engine.new config (← MessageCatalog.known) .known transport .listener

def run (config : EngineConfig) : IO UInt32 := do
  IO.println (linkLine config)
  match engineOf config (← linkExists config.link) with
  | .error error =>
    IO.eprintln s!"❌ Failed to build the engine: {error.message}"
    return 1
  | .ok engine =>
    match engine.start with
    | (.error error, engine) =>
      discard (flush engine)
      IO.eprintln s!"❌ Failed to start: {error.message}"
      return 1
    | (.ok (), engine) =>
      IO.println "✅ Engine started, waiting for the bus driver..."
      let engine ← follow (← flush engine) .starting
      for line in summary engine do IO.println line
      return 0

end HeatingBus.Monitor

open HeatingBus in
def main (arguments : List String) : IO UInt32 := do
  IO.println s!"🚀 {about}"
  IO.println "=============================================="
  match ← Monitor.configuration arguments with
  | .ok config => Monitor.run config
  | .error error =>
    IO.eprintln s!"❌ {error.message}"
    return 1
