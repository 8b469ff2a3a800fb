/-!
# Ordinals

The commands of the module, each with the number that stands for it in a request and the name that
messages use.

* `ofCode?_code`: a number names at most one command, and every command is found by its number.
-/

set_option autoImplicit false

namespace TrustedPlatform

inductive Ordinal where
  | oiap
  | osap
  | extend
  | pcrRead
  | dirWriteAuth
  | dirRead
  | createWrapKey
  | loadKey
  | getPubKey
  | evictKey
  | sign
  | loadKey2
  | getRandom
  | stirRandom
  | selfTestFull
  | continueSelfTest
  | getTestResult
  | getCapability
  | getAuditDigest
  | getAuditDigestSigned
  | setOrdinalAuditStatus
  | terminateHandle
  | startup
  | saveKeyContext
  | loadKeyContext
  | saveAuthContext
  | loadAuthContext
  | saveContext
  | loadContext
  | flushSpecific
  | pcrReset
  | createCounter
  | incrementCounter
  | readCounter
  | releaseCounter
  | releaseCounterOwner
  deriving DecidableEq, Repr

namespace Ordinal

def all : List Ordinal :=
  [.oiap, .osap, .extend, .pcrRead, .dirWriteAuth, .dirRead, .createWrapKey, .loadKey,
   .getPubKey, .evictKey, .sign, .loadKey2, .getRandom, .stirRandom, .selfTestFull,
   .continueSelfTest, .getTestResult, .getCapability, .getAuditDigest, .getAuditDigestSigned,
   .setOrdinalAuditStatus, .terminateHandle, .startup, .saveKeyContext, .loadKeyContext,
   .saveAuthContext, .loadAuthContext, .saveContext, .loadContext, .flushSpecific, .pcrReset,
   .createCounter, .incrementCounter, .readCounter, .releaseCounter, .releaseCounterOwner]

def code : Ordinal → UInt32
  | .oiap => 0x0a
  | .osap => 0x0b
  | .extend => 0x14
  | .pcrRead => 0x15
  | .dirWriteAuth => 0x19
  | .dirRead => 0x1a
  | .createWrapKey => 0x1f
  | .loadKey => 0x20
  | .getPubKey => 0x21
  | .evictKey => 0x22
  | .sign => 0x3c
  | .loadKey2 => 0x41
  | .getRandom => 0x46
  | .stirRandom => 0x47
  | .selfTestFull => 0x50
  | .continueSelfTest => 0x53
  | .getTestResult => 0x54
  | .getCapability => 0x65
  | .getAuditDigest => 0x85
  | .getAuditDigestSigned => 0x86
  | .setOrdinalAuditStatus => 0x8d
  | .terminateHandle => 0x96
  | .startup => 0x99
  | .saveKeyContext => 0xb4
  | .loadKeyContext => 0xb5
  | .saveAuthContext => 0xb6
  | .loadAuthContext => 0xb7
  | .saveContext => 0xb8
  | .loadContext => 0xb9
  | .flushSpecific => 0xba
  | .pcrReset => 0xc8
  | .createCounter => 0xdc
  | .incrementCounter => 0xdd
  | .readCounter => 0xde
  | .releaseCounter => 0xdf
  | .releaseCounterOwner => 0xe0

def name : Ordinal → String
  | .oiap => "Oiap"
  | .osap => "Osap"
  | .extend => "Extend"
  | .pcrRead => "PcrRead"
  | .dirWriteAuth => "DirWriteAuth"
  | .dirRead => "DirRead"
  | .createWrapKey => "CreateWrapKey"
  | .loadKey => "LoadKey"
  | .getPubKey => "GetPubKey"
  | .evictKey => "EvictKey"
  | .sign => "Sign"
  | .loadKey2 => "LoadKey2"
  | .getRandom => "GetRandom"
  | .stirRandom => "StirRandom"
  | .selfTestFull => "SelfTestFull"
  | .continueSelfTest => "ContinueSelfTest"
  | .getTestResult => "GetTestResult"
  | .getCapability => "GetCapability"
  | .getAuditDigest => "GetAuditDigest"
  | .getAuditDigestSigned => "GetAuditDigestSigned"
  | .setOrdinalAuditStatus => "SetOrdinalAuditStatus"
  | .terminateHandle => "TerminateHandle"
  | .startup => "Startup"
  | .saveKeyContext => "SaveKeyContext"
  | .loadKeyContext => "LoadKeyContext"
  | .saveAuthContext => "SaveAuthContext"
  | .loadAuthContext => "LoadAuthContext"
  | .saveContext => "SaveContext"
  | .loadContext => "LoadContext"
  | .flushSpecific => "FlushSpecific"
  | .pcrReset => "PcrReset"
  | .createCounter => "CreateCounter"
  | .incrementCounter => "IncrementCounter"
  | .readCounter => "ReadCounter"
  | .releaseCounter => "ReleaseCounter"
  | .releaseCounterOwner => "ReleaseCounterOwner"

def ofCode? (code : UInt32) : Option Ordinal :=
  all.find? fun ordinal => ordinal.code == code

def ofName? (name : String) : Option Ordinal :=
  all.find? fun ordinal => ordinal.name == name

/-- The commands that may be answered with a request to try again: those that write the counters,
while another write of them is under way. -/
def isRetryable : Ordinal → Bool
  | .createCounter | .incrementCounter | .releaseCounter | .releaseCounterOwner => true
  | _ => false

def carriesSecret : Ordinal → Bool
  | .createWrapKey | .createCounter => true
  | _ => false

theorem ofCode?_code (ordinal : Ordinal) : ofCode? ordinal.code = some ordinal := by
  cases ordinal <;> decide

end Ordinal

end TrustedPlatform
