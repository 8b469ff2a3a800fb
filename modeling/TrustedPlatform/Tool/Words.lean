import TrustedPlatform.CommandLine.Menu
import TrustedPlatform.Digest.Sha1
import TrustedPlatform.Tool.Subcommand

/-!
# The command line of the tool

Which words tell the tool to do what.  Handles are given in hexadecimal digits; a secret is given as
a password or, under the same name with an `f` behind it, as the file that holds it.

* `ofWords_nil`: without words the tool shows its help.
-/

set_option autoImplicit false

namespace TrustedPlatform.Tool

namespace Words

open CommandLine CommandLine.Grammar

def inputPath : Grammar String := required "input" (some 'i') Reading.path

def outputPath : Grammar String := required "output" (some 'o') Reading.path

def outputPath? : Grammar (Option String) := optional "output" (some 'o') Reading.path

def handle : Reading UInt32 := Reading.operand Operand.handle

def number : Reading UInt32 := Reading.operand Operand.number

def digest : Reading Digest := Reading.operand Operand.digest

/-- Where the secret of an entity comes from; the entity is given by a letter. -/
def secretOf (entity : String) : Grammar SecretSource :=
  SecretSource.mk <$> optional ("pwd" ++ entity) none Reading.text
    <*> optional ("pwd" ++ entity ++ "f") none Reading.path

def parentSecret : Grammar SecretSource := secretOf "p"

def keySecret : Grammar SecretSource := secretOf "k"

def ownerSecret : Grammar SecretSource := secretOf "o"

def parent : Grammar UInt32 := usually "hp" none handle storageRootKey

def key : Grammar UInt32 := required "hk" none handle

def counter : Grammar UInt32 := required "id" none number

def register : Grammar UInt32 := required "pcr" none number

def integrityRegister : Grammar UInt32 := usually "index" none number 0

def older : Grammar Bool := flag "legacy" none

def usages : List (String × KeyUsage) :=
  [("sign", .signing), ("storage", .storage), ("bind", .bind), ("legacy", .legacy)]

def savable : List (String × ResourceKind) := [("key", .key), ("auth", .auth)]

def areas : List (String × Capability) :=
  [("ord", .ord), ("flag", .flag), ("property", .property), ("version", .version),
    ("key-handle", .keyHandle), ("handle", .handle), ("mfr", .mfr)]

def startups : List (String × StartupKind) :=
  [("clear", .clear), ("state", .state), ("deactivated", .deactivated)]

/-- Evicting one key, or every key; one of the two has to be said. -/
def evictKey : Grammar Subcommand :=
  exclusive "hk" "all" (orElse
    ((fun all => if all then some .evictAll else none) <$> flag "all" none)
    (.evictKey <$> key))

def extension : Grammar Digest :=
  orElse (optional "digest" none digest)
    ((fun text => Sha1.hash (Bytes.ofText text)) <$> required "text" none Reading.text)

/-- Extending a register; that its value is given twice counts before anything that is missing. -/
def extend : Grammar Subcommand :=
  exclusive "digest" "text" (.extend <$> register <*> extension)

/-- The audit digest as it is, or signed by a key that is named.  What else is given for signing
does not matter without a key. -/
def auditDigest : Grammar Subcommand :=
  (fun key? secret antiReplay? close =>
    match key? with
    | none => .auditListing
    | some key => .signedAudit key secret antiReplay? close)
    <$> optional "hk" none handle <*> keySecret <*> optional "nonce" none digest
    <*> flag "close" none

/-- The flag that makes the log show everything; it may stand on every level. -/
def verbose : Grammar Bool := flag "verbose" (some 'v')

def command (name : String) (grammar : Grammar Subcommand) : Choice Subcommand :=
  .ofGrammar name ((fun subcommand _ => subcommand) <$> grammar <*> verbose)

def counterMenu : Menu Subcommand where
  flags := verbose.parameters
  choices := [
    command "create" (.createCounter <$> ownerSecret <*> required "pwdc" none Reading.text
      <*> usually "label" none Reading.text "CNT"),
    command "increment" (.incrementCounter <$> counter <*> required "pwdc" none Reading.text),
    command "read" (.readCounter <$> counter),
    command "release" (.releaseCounter <$> counter <*> required "pwd" none Reading.text
      <*> flag "owner" none)]

def versionParameter : Parameter := ⟨"version", some 'V', .version, fun _ => .ok ()⟩

def menu : Menu Subcommand where
  flags := versionParameter :: verbose.parameters
  choices := [
    command "loadkey" (.loadKey <$> parent <*> parentSecret <*> inputPath <*> older),
    command "listkeys" (pure .listKeys),
    command "evictkey" evictKey,
    command "getpubkey" (.publicKey <$> key <*> keySecret <*> outputPath?),
    command "createwrapkey" (.createKey <$> parent <*> parentSecret <*> keySecret
      <*> optional "pwdm" none Reading.text
      <*> usually "type" none (Reading.oneOf usages) .signing
      <*> usually "bits" none (Reading.operand Operand.size) 2048 <*> outputPath),
    command "sign" (.sign <$> key <*> keySecret <*> inputPath <*> outputPath?),
    counterMenu.asChoice "counter",
    command "extend" extend,
    command "pcrread" (.readRegisters <$> optional "pcr" none number),
    command "pcrreset" (.resetRegisters <$> listed "pcrs" none number),
    command "dirread" (.readIntegrity <$> integrityRegister),
    command "dirwrite" (.writeIntegrity <$> integrityRegister
      <*> required "value" none digest <*> ownerSecret),
    command "savecontext" (.saveContext <$> required "ha" none handle
      <*> usually "type" none (Reading.oneOf savable) .key
      <*> usually "label" none Reading.text "" <*> older <*> outputPath),
    command "loadcontext" (.loadContext <$> inputPath <*> usually "ha" none handle 0
      <*> flag "keep" none <*> older),
    command "selftest" (.selfTest <$> flag "continue" none),
    command "random" (.random
      <$> usually "bytes" (some 'n') (Reading.operand Operand.count) 20
      <*> optional "stir" none Reading.text <*> outputPath?),
    command "getcapability" (.capability <$> required "cap" none (Reading.oneOf areas)
      <*> optional "sub" none number),
    command "auditdigest" auditDigest,
    command "setaudit" ((fun ordinal off => .setAudited ordinal !off)
      <$> required "ordinal" none number <*> flag "off" none <*> ownerSecret),
    command "startup" (.startup <$> usually "type" none (Reading.oneOf startups) .clear)]

end Words

def Invocation.ofWords (words : List String) : Except CommandLine.Refusal Invocation :=
  (Words.menu.read words).map fun (given, subcommand) => ⟨given.has "verbose", subcommand⟩

theorem ofWords_nil : Invocation.ofWords [] = .error .nothingGiven := rfl

end TrustedPlatform.Tool
