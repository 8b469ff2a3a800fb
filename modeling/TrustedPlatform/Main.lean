import TrustedPlatform.Channel.Connection
import TrustedPlatform.Channel.Script
import TrustedPlatform.Tool.Run
import TrustedPlatform.Tool.Words

/-!
# The program

The tool at a device.  A call is rehearsed over what the device has answered so far; a request
that has no answer yet is then sent to the device, and the call is rehearsed again.  A rehearsal
with the same answers takes the same course, so the last one is the call.

Only devices are connected to.
-/

set_option autoImplicit false

namespace TrustedPlatform.Program

def environment : IO (String → Option String) := do
  let found ← Settings.variableNames.mapM fun name => return (name, ← IO.getEnv name)
  return fun name => (found.lookup name).join

def probe (place : Place) : IO (Option Node) := do
  try
    if ← (← IO.FS.realPath place.name).isDir then return some .directory
    return some (.file (← IO.FS.readBinFile place.name).toList)
  catch _ => return none

def filesFor (subcommand : Tool.Subcommand) : IO Files := do
  let mut files : Files := ⟨Files.specialNodes, .ofName (← IO.currentDir).toString⟩
  for path in subcommand.inputs ++ subcommand.outputs do
    for place in (files.workplace.start path).along (Place.stepsOf path) do
      if (files.node? place).isNone then
        if let some node ← probe place then files := files.place place node
  return files

def openEndpoint (endpoint : Endpoint) : IO (Except Fault IO.FS.Handle) := do
  let refuse (cause : String) := Except.error (Fault.transport endpoint.connecting cause)
  match endpoint with
  | .device path =>
    try
      return .ok (← IO.FS.Handle.mk path .readWrite)
    catch
      | .noFileOrDirectory _ _ _ => return refuse SystemFault.noSuchFile.message
      | error => return refuse (toString error)
  | _ => return refuse SystemFault.notSupported.message

/-- One response from a device, behind the reads there were already. -/
partial def readFrame (device : IO.FS.Handle) (settings : Settings) (reads : List Bytes) :
    IO (Except Fault Bytes) := do
  let read := (← device.read Inflow.largestRead.toUSize).toList
  let atEnd := Fault.transport "reading response" "device closed mid-response"
  let reads := reads ++ [read]
  let (outcome, _) := Inflow.gather settings.responseLimit atEnd [] reads
  if outcome matches .error (.transport _ _) then
    if read.isEmpty then return outcome else readFrame device settings reads
  else
    return outcome

def answer (device : IO.FS.Handle) (settings : Settings) (request : Bytes) : IO ScriptEntry := do
  try
    device.write ⟨request.toArray⟩
    device.flush
  catch error =>
    return .sendFails (.transport "writing command" (toString error))
  try
    match ← readFrame device settings [] with
    | .ok response => return .answer response
    | .error fault => return .receiveFails fault
  catch error =>
    return .receiveFails (.transport "reading response" (toString error))

def isBusy : ScriptEntry → Bool
  | .answer response =>
    match Response.parse response with
    | .ok response => response.code = ResultCode.retry
    | .error _ => false
  | _ => false

/-- Carries a call out, after what the device has answered so far. -/
partial def carryOut (invocation : Tool.Invocation) (settings : Settings)
    (surroundings : List ScriptEntry → Tool.Surroundings Script)
    (device? : Except Fault IO.FS.Handle) (entries : List ScriptEntry) :
    IO (Tool.Report Script) := do
  let report := invocation.run (surroundings entries)
  match device?, (report.channel?.map Script.sent).getD [] with
  | .ok device, request :: earlier =>
    if entries.length ≤ earlier.length then
      let entry ← answer device settings request
      if isBusy entry then IO.sleep (settings.delay.nanoseconds / 1000000).toUInt32
      carryOut invocation settings surroundings device? (entries ++ [entry])
    else
      return report
  | _, _ => return report

def perform (invocation : Tool.Invocation) : IO UInt32 := do
  let lookup ← environment
  let files ← filesFor invocation.subcommand
  let seed := (← IO.getRandomBytes 20).toList
  let settings := (invocation.settings lookup).toOption.getD Settings.standard
  let device? ← openEndpoint settings.endpoint
  let surroundings (entries : List ScriptEntry) : Tool.Surroundings Script :=
    ⟨lookup, fun _ => device?.map fun _ => .ofEntries entries, files, .seeded [] seed,
      entries.length + 2⟩
  let report ← carryOut invocation settings surroundings device? []
  for (place, contents) in report.files.changesSince files do
    IO.FS.writeBinFile place.name ⟨contents.toArray⟩
  (← IO.getStdout).write ⟨report.printed.toArray⟩
  if let some message := report.message? then
    IO.eprintln (if report.panicked then message else s!"Error: {message}")
  return UInt32.ofNat (report.exitStatus % 256).toNat

def explain (refusal : CommandLine.Refusal) : IO UInt32 := do
  IO.eprintln refusal.message
  return UInt32.ofNat refusal.exitStatus

end TrustedPlatform.Program

def main (words : List String) : IO UInt32 :=
  match TrustedPlatform.Tool.Invocation.ofWords words with
  | .error refusal => TrustedPlatform.Program.explain refusal
  | .ok invocation => TrustedPlatform.Program.perform invocation
