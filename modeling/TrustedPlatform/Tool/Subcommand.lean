import TrustedPlatform.Bytes
import TrustedPlatform.Registry

/-!
# Subcommands

What the tool can be told to do, with every value it needs, whatever words it was told in.
-/

set_option autoImplicit false

namespace TrustedPlatform.Tool

/-- Where a secret comes from: a password, or a file that holds its bytes. -/
structure SecretSource where
  password? : Option String
  file? : Option String
  deriving DecidableEq, Repr

inductive Subcommand where
  | loadKey (parent : UInt32) (parentSecret : SecretSource) (input : String) (older : Bool)
  | listKeys
  | evictKey (handle : UInt32)
  | evictAll
  | publicKey (handle : UInt32) (secret : SecretSource) (output? : Option String)
  -- Create a key under a parent.  With a migration password it is migratable.
  | createKey (parent : UInt32) (parentSecret keySecret : SecretSource)
      (migrationPassword? : Option String) (usage : KeyUsage) (bits : UInt32) (output : String)
  | sign (handle : UInt32) (secret : SecretSource) (input : String) (output? : Option String)
  | createCounter (ownerSecret : SecretSource) (password label : String)
  | incrementCounter (number : UInt32) (password : String)
  | readCounter (number : UInt32)
  | releaseCounter (number : UInt32) (password : String) (byOwner : Bool)
  | extend (register : UInt32) (value : Digest)
  | readRegisters (register? : Option UInt32)
  | resetRegisters (registers : List UInt32)
  | readIntegrity (index : UInt32)
  | writeIntegrity (index : UInt32) (value : Digest) (ownerSecret : SecretSource)
  | saveContext (handle : UInt32) (kind : ResourceKind) (label : String) (older : Bool)
      (output : String)
  | loadContext (input : String) (hint : UInt32) (keep older : Bool)
  -- Test the module, all of it or what is left to test.
  | selfTest (remaining : Bool)
  -- Draw random bytes, after stirring in some of the caller's.
  | random (count : Nat) (stir? output? : Option String)
  | capability (area : Capability) (detail? : Option UInt32)
  | auditListing
  | signedAudit (key : UInt32) (secret : SecretSource) (antiReplay? : Option Digest)
      (close : Bool)
  | setAudited (ordinal : UInt32) (audited : Bool) (ownerSecret : SecretSource)
  | startup (kind : StartupKind)

def SecretSource.paths (source : SecretSource) : List String := source.file?.toList

def Subcommand.inputs : Subcommand → List String
  | .loadKey _ parentSecret input _ => input :: parentSecret.paths
  | .publicKey _ secret _ => secret.paths
  | .createKey _ parentSecret keySecret _ _ _ _ => parentSecret.paths ++ keySecret.paths
  | .sign _ secret input _ => input :: secret.paths
  | .createCounter ownerSecret _ _ => ownerSecret.paths
  | .writeIntegrity _ _ ownerSecret => ownerSecret.paths
  | .loadContext input _ _ _ => [input]
  | .signedAudit _ secret _ _ => secret.paths
  | .setAudited _ _ ownerSecret => ownerSecret.paths
  | _ => []

def Subcommand.outputs : Subcommand → List String
  | .publicKey _ _ output? => output?.toList
  | .createKey _ _ _ _ _ _ output => [output]
  | .sign _ _ _ output? => output?.toList
  | .saveContext _ _ _ _ output => [output]
  | .random _ _ output? => output?.toList
  | _ => []

structure Invocation where
  verbose : Bool
  subcommand : Subcommand

end TrustedPlatform.Tool
