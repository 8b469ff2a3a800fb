import TrustedPlatform.Channel.Connection
import TrustedPlatform.Channel.Host
import TrustedPlatform.Files.Access

/-!
# Isolation

What a machine finds at an endpoint when it has files, but no network and nobody at its sockets.

* `siteOf_device_of_file`: a file stands in for a device.
-/

set_option autoImplicit false

namespace TrustedPlatform

def longestSocketPath : Nat := 107

namespace Files

def deviceAt (files : Files) (path : String) : Site :=
  match files.find path with
  | .error cause => .shut cause
  | .ok .directory => .shut .isDirectory
  | .ok .socket => .shut .noSuchDevice
  | .ok (.file contents) => .file contents false []
  | .ok (.special kind) => .special kind

def socketFault (files : Files) (path : String) : SystemFault :=
  if path.contains (Char.ofNat 0) then .zeroInSocketPath
  else if longestSocketPath < path.utf8ByteSize then .socketPathTooLong
  else if path = "" then .invalidArgument
  else
    match files.find path with
    | .error cause => cause
    | .ok _ => .connectionRefused

def siteOf (files : Files) : Endpoint → Site
  | .tcp host _ => .shut (Host.offline host)
  | .device path => files.deviceAt path
  | .unix path => .shut (files.socketFault path)

def connect (files : Files) (settings : Settings) : Except Fault Connection :=
  Connection.connect settings (files.siteOf settings.endpoint)

/-- The files after a connection.  What was sent to a file is in it. -/
def after (files : Files) (connection : Connection) : Files :=
  match connection.endpoint, connection.site with
  | .device path, .file contents _ _ =>
    match files.create path with
    | .ok place => files.put place contents
    | .error _ => files
  | _, _ => files

theorem siteOf_device_of_file (files : Files) (path : String) (contents : Bytes)
    (found : files.find path = .ok (.file contents)) :
    files.siteOf (.device path) = .file contents false [] := by
  simp [siteOf, deviceAt, found]

end Files

end TrustedPlatform
