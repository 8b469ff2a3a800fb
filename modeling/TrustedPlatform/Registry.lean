/-!
# Assigned numbers

The kinds of things that requests name by number: entities, resources, capability areas, uses of a
key and ways to start.  Each kind has its number on the wire and the name that messages use.
-/

set_option autoImplicit false

namespace TrustedPlatform

inductive EntityKind where
  | keyHandle | owner | data | srk | key | counter | nv | operator
  deriving DecidableEq, Repr

namespace EntityKind

def all : List EntityKind :=
  [.keyHandle, .owner, .data, .srk, .key, .counter, .nv, .operator]

def code : EntityKind → UInt16
  | .keyHandle => 0x01
  | .owner => 0x02
  | .data => 0x03
  | .srk => 0x04
  | .key => 0x05
  | .counter => 0x0a
  | .nv => 0x0b
  | .operator => 0x0c

def name : EntityKind → String
  | .keyHandle => "KeyHandle"
  | .owner => "Owner"
  | .data => "Data"
  | .srk => "Srk"
  | .key => "Key"
  | .counter => "Counter"
  | .nv => "Nv"
  | .operator => "Operator"

def ofName? (name : String) : Option EntityKind :=
  all.find? fun kind => kind.name == name

end EntityKind

inductive ResourceKind where
  | key | auth | hash | trans | context | counter | delegate | daaTpm | daaV0 | daaV1
  deriving DecidableEq, Repr

namespace ResourceKind

def all : List ResourceKind :=
  [.key, .auth, .hash, .trans, .context, .counter, .delegate, .daaTpm, .daaV0, .daaV1]

def code : ResourceKind → UInt32
  | .key => 0x01
  | .auth => 0x02
  | .hash => 0x03
  | .trans => 0x04
  | .context => 0x05
  | .counter => 0x06
  | .delegate => 0x07
  | .daaTpm => 0x08
  | .daaV0 => 0x09
  | .daaV1 => 0x0a

def name : ResourceKind → String
  | .key => "Key"
  | .auth => "Auth"
  | .hash => "Hash"
  | .trans => "Trans"
  | .context => "Context"
  | .counter => "Counter"
  | .delegate => "Delegate"
  | .daaTpm => "DaaTpm"
  | .daaV0 => "DaaV0"
  | .daaV1 => "DaaV1"

def ofCode? (code : UInt32) : Option ResourceKind :=
  all.find? fun kind => kind.code == code

theorem ofCode?_code (kind : ResourceKind) : ofCode? kind.code = some kind := by
  cases kind <;> decide

def ofName? (name : String) : Option ResourceKind :=
  all.find? fun kind => kind.name == name

def isSession : ResourceKind → Bool
  | .auth | .trans => true
  | _ => false

end ResourceKind

inductive Capability where
  | ord | alg | pid | flag | property | version | keyHandle | checkLoaded | symMode | keyStatus
  | nvList | mfr | nvIndex | transAlg | handle | transEs | authEncrypt | selectSize | daLogic
  | versionVal
  deriving DecidableEq, Repr

namespace Capability

def all : List Capability :=
  [.ord, .alg, .pid, .flag, .property, .version, .keyHandle, .checkLoaded, .symMode, .keyStatus,
   .nvList, .mfr, .nvIndex, .transAlg, .handle, .transEs, .authEncrypt, .selectSize, .daLogic,
   .versionVal]

def code : Capability → UInt32
  | .ord => 0x01
  | .alg => 0x02
  | .pid => 0x03
  | .flag => 0x04
  | .property => 0x05
  | .version => 0x06
  | .keyHandle => 0x07
  | .checkLoaded => 0x08
  | .symMode => 0x09
  | .keyStatus => 0x0c
  | .nvList => 0x0d
  | .mfr => 0x10
  | .nvIndex => 0x11
  | .transAlg => 0x12
  | .handle => 0x14
  | .transEs => 0x15
  | .authEncrypt => 0x17
  | .selectSize => 0x18
  | .daLogic => 0x19
  | .versionVal => 0x1a

def name : Capability → String
  | .ord => "Ord"
  | .alg => "Alg"
  | .pid => "Pid"
  | .flag => "Flag"
  | .property => "Property"
  | .version => "Version"
  | .keyHandle => "KeyHandle"
  | .checkLoaded => "CheckLoaded"
  | .symMode => "SymMode"
  | .keyStatus => "KeyStatus"
  | .nvList => "NvList"
  | .mfr => "Mfr"
  | .nvIndex => "NvIndex"
  | .transAlg => "TransAlg"
  | .handle => "Handle"
  | .transEs => "TransEs"
  | .authEncrypt => "AuthEncrypt"
  | .selectSize => "SelectSize"
  | .daLogic => "DaLogic"
  | .versionVal => "VersionVal"

def ofName? (name : String) : Option Capability :=
  all.find? fun kind => kind.name == name

end Capability

inductive KeyUsage where
  | signing | storage | identity | authChange | bind | legacy | migrate
  deriving DecidableEq, Repr

namespace KeyUsage

def all : List KeyUsage :=
  [.signing, .storage, .identity, .authChange, .bind, .legacy, .migrate]

def code : KeyUsage → UInt16
  | .signing => 0x10
  | .storage => 0x11
  | .identity => 0x12
  | .authChange => 0x13
  | .bind => 0x14
  | .legacy => 0x15
  | .migrate => 0x16

def name : KeyUsage → String
  | .signing => "Signing"
  | .storage => "Storage"
  | .identity => "Identity"
  | .authChange => "AuthChange"
  | .bind => "Bind"
  | .legacy => "Legacy"
  | .migrate => "Migrate"

def ofCode? (code : UInt16) : Option KeyUsage :=
  all.find? fun kind => kind.code == code

theorem ofCode?_code (kind : KeyUsage) : ofCode? kind.code = some kind := by
  cases kind <;> decide

def ofName? (name : String) : Option KeyUsage :=
  all.find? fun kind => kind.name == name

end KeyUsage

inductive StartupKind where
  | clear | state | deactivated
  deriving DecidableEq, Repr

namespace StartupKind

def all : List StartupKind :=
  [.clear, .state, .deactivated]

def code : StartupKind → UInt16
  | .clear => 0x01
  | .state => 0x02
  | .deactivated => 0x03

def name : StartupKind → String
  | .clear => "Clear"
  | .state => "State"
  | .deactivated => "Deactivated"

def ofName? (name : String) : Option StartupKind :=
  all.find? fun kind => kind.name == name

end StartupKind

def storageRootKey : UInt32 := 0x40000000

def ownerHandle : UInt32 := 0x40000001

def registerCountProperty : UInt32 := 0x101

end TrustedPlatform
