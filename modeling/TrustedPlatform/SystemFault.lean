/-!
# What the system refuses

Why the operating system gives no access to a file or an address.  Most causes have a number there,
which is told with them; the others are names that the system is not even asked about.
-/

set_option autoImplicit false

namespace TrustedPlatform

inductive SystemFault where
  | noSuchFile
  | noSuchDevice
  | outOfMemory
  | notPermitted
  | notDirectory
  | isDirectory
  | invalidArgument
  | noSpace
  | nameTooLong
  | notSupported
  | addressUnavailable
  | networkUnreachable
  | connectionRefused
  | zeroInName
  | zeroInSocketPath
  | socketPathTooLong
  | zeroTimeout
  | hostUnknown
  | lookupFailed
  deriving DecidableEq, Repr

namespace SystemFault

def number? : SystemFault → Option Nat
  | noSuchFile => some 2
  | noSuchDevice => some 6
  | notPermitted => some 13
  | notDirectory => some 20
  | isDirectory => some 21
  | invalidArgument => some 22
  | noSpace => some 28
  | nameTooLong => some 36
  | notSupported => some 95
  | addressUnavailable => some 99
  | networkUnreachable => some 101
  | connectionRefused => some 111
  | _ => none

def text : SystemFault → String
  | noSuchFile => "No such file or directory"
  | noSuchDevice => "No such device or address"
  | outOfMemory => "out of memory"
  | notPermitted => "Permission denied"
  | notDirectory => "Not a directory"
  | isDirectory => "Is a directory"
  | invalidArgument => "Invalid argument"
  | noSpace => "No space left on device"
  | nameTooLong => "File name too long"
  | notSupported => "Operation not supported"
  | addressUnavailable => "Cannot assign requested address"
  | networkUnreachable => "Network is unreachable"
  | connectionRefused => "Connection refused"
  | zeroInName => "file name contained an unexpected NUL byte"
  | zeroInSocketPath => "paths must not contain interior null bytes"
  | socketPathTooLong => "path must be shorter than SUN_LEN"
  | zeroTimeout => "cannot set a 0 duration timeout"
  | hostUnknown => "failed to lookup address information: Name or service not known"
  | lookupFailed => "failed to lookup address information: Temporary failure in name resolution"

def message (fault : SystemFault) : String :=
  match fault.number? with
  | none => fault.text
  | some number => s!"{fault.text} (os error {number})"

end SystemFault

end TrustedPlatform
