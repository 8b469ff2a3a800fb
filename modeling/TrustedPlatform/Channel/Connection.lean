import TrustedPlatform.Channel.Basic
import TrustedPlatform.Channel.Framing
import TrustedPlatform.Files.Basic
import TrustedPlatform.Settings
import TrustedPlatform.SystemFault

/-!
# Connections

The three ways to a module: a socket in the network, a socket in this machine, and a device file.
What is found at an address is given as data, so that a connection can be followed step by step.

A socket and a device that could not be opened anew stay closed until they are; the network socket
dials again by itself at the next step.

A plain file can stand in for a device: what is sent overwrites what it holds, and what lies behind
that is read.  Its contents stay when it is opened anew, and as long as it is open also when it was
removed.  A device with nobody behind it takes what is sent and brings nothing.

* `take_overwrite`: overwriting changes nothing in front of the place where it begins.
* `meet_without`: a device that was removed cannot be opened any more.
* `meet_device_of_closed`: a device whose bytes come to an end is a plain file.
-/

set_option autoImplicit false

namespace TrustedPlatform

inductive Site where
  | shut (cause : SystemFault)
  -- The address takes connections, and this is what each of them brings.
  | serving (inflows : List Inflow)
  -- A plain file, which may have been removed since it was opened, and what the next ones to open
  -- the device find there instead of it.
  | file (contents : Bytes) (removed : Bool) (later : List Inflow)
  | special (kind : SpecialFile)
  deriving DecidableEq, Repr

namespace Endpoint

def display : Endpoint → String
  | .tcp host port => s!"tcp://{host}:{port}"
  | .device path => s!"device:{path}"
  | .unix path => s!"unix://{path}"

def connecting : Endpoint → String
  | .tcp host port => s!"connecting to {host}:{port}"
  | .device path => s!"opening TPM device {path}"
  | .unix path => s!"connecting to {path}"

def isDevice : Endpoint → Bool
  | .device _ => true
  | _ => false

end Endpoint

/-- What a special file brings.  Zeros without end come in reads as large as they can be. -/
def SpecialFile.inflow : SpecialFile → Inflow
  | .null | .output | .terminal => ⟨[], true⟩
  | .zero | .full => ⟨List.replicate Inflow.largestRead 0, true⟩

structure Connection where
  endpoint : Endpoint
  patience : Duration
  limit : Nat
  site : Site
  stream : Option Inflow

namespace Connection

/-- What is found where a device is opened that these inflows are for.  Bytes that come to an end
are the contents of a plain file. -/
def fill : List Inflow → Inflow × Site
  | [] => (⟨[], false⟩, .serving [])
  | inflow :: later =>
    (inflow, if inflow.closed then .file inflow.bytes false later else .serving later)

def meet (endpoint : Endpoint) : Site → Except SystemFault Inflow × Site
  | .shut cause => (.error cause, .shut cause)
  | .serving inflows =>
    if endpoint.isDevice then
      let (inflow, site) := fill inflows
      (.ok inflow, site)
    else
      match inflows with
      | [] => (.error .connectionRefused, .serving [])
      | inflow :: later => (.ok inflow, .serving later)
  | .file _ _ (inflow :: later) =>
    let (inflow, site) := fill (inflow :: later)
    (.ok inflow, site)
  | .file contents removed [] =>
    (if removed then .error .noSuchFile else .ok ⟨contents, true⟩, .file contents removed [])
  | .special kind =>
    (if kind = .terminal then .error .noSuchDevice else .ok kind.inflow, .special kind)

/-- Drops what is open and connects.  A socket cannot wait for no time at all. -/
def reopen : Action Fault Connection Unit where
  run connection :=
    let (met, site) := meet connection.endpoint connection.site
    let closed := { connection with site, stream := none }
    let refuse (cause : SystemFault) : Except Fault Unit :=
      .error (.transport connection.endpoint.connecting cause.message)
    match met with
    | .error cause => (refuse cause, closed)
    | .ok inflow =>
      if connection.patience = ⟨0⟩ ∧ !connection.endpoint.isDevice then
        (refuse .zeroTimeout, closed)
      else (.ok (), { closed with stream := some inflow })

/-- The open stream.  Only a network socket dials by itself. -/
def opened : Action Fault Connection Inflow := do
  let connection ← get
  match connection.stream, connection.endpoint with
  | some inflow, _ => return inflow
  | none, .device path => throw (.settings (.deviceNotOpen path))
  | none, .unix _ => throw (.settings .socketNotConnected)
  | none, .tcp _ _ =>
    reopen
    return (← get).stream.getD ⟨[], true⟩

def overwrite (contents : Bytes) (left : Nat) (written : Bytes) : Bytes :=
  contents.take (contents.length - left) ++ written ++
    (contents.drop (contents.length - left)).drop written.length

def send (request : Bytes) : Action Fault Connection Unit := do
  let inflow ← opened
  let connection ← get
  match connection.site with
  | .file contents removed later =>
    set { connection with
      site := .file (overwrite contents inflow.bytes.length request) removed later
      stream := some { inflow with bytes := inflow.bytes.drop request.length } }
  | .special .full => throw (.transport "writing command" SystemFault.noSpace.message)
  | _ => return

def receive : Action Fault Connection Bytes := do
  let inflow ← opened
  let connection ← get
  let read := if connection.endpoint.isDevice then Inflow.gatherFrame else Inflow.readFrame
  let (outcome, rest) := (read connection.limit connection.patience).run inflow
  let isSpecial := connection.site matches .special _
  set { connection with stream := some (if isSpecial then inflow else rest) }
  Action.ofExcept outcome

instance : Channel Connection where
  send := send
  receive := receive
  reopen := reopen
  endpoint connection := connection.endpoint.display

def connect (settings : Settings) (site : Site) : Except Fault Connection :=
  let closed : Connection :=
    ⟨settings.endpoint, settings.timeout, settings.responseLimit, site, none⟩
  match reopen.run closed with
  | (.ok (), connection) => .ok connection
  | (.error fault, _) => .error fault

/-- A site after the device there was removed.  What is open stays so, but nothing can be opened
there any more. -/
def without : Site → Site
  | .file contents _ _ => .file contents true []
  | _ => .shut .noSuchFile

def remove (connection : Connection) : Connection :=
  if connection.endpoint.isDevice then { connection with site := without connection.site }
  else connection

theorem take_overwrite (contents written : Bytes) (left : Nat) :
    (overwrite contents left written).take (contents.length - left) =
      contents.take (contents.length - left) := by
  simp [overwrite, List.append_assoc]

theorem meet_without (endpoint : Endpoint) (site : Site) :
    meet endpoint (without site) = (.error .noSuchFile, without site) := by
  cases site <;> rfl

theorem meet_device_of_closed (path : String) (inflow : Inflow) (closed : inflow.closed = true) :
    meet (.device path) (.serving [inflow]) = (.ok inflow, .file inflow.bytes false []) := by
  simp [meet, fill, closed, Endpoint.isDevice]

end Connection

end TrustedPlatform
