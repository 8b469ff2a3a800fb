import TrustedPlatform.Files.Access
import TrustedPlatform.Secret
import TrustedPlatform.Tool.Failure
import TrustedPlatform.Tool.Subcommand
import TrustedPlatform.Wire.Reader

/-!
# Input

What the tool finds in files and in words that it was given as they are: secrets, structures and
labels.

* `contents_store`: a file that was written has those contents.
* `label_eq_ok_iff`: a label is the text's bytes, filled up with zeros, if they fit.
* `secret_eq_ok_iff`: a secret that is needed is one that is found.
-/

set_option autoImplicit false

namespace TrustedPlatform

open Tool (InputFault)

/-- The contents of a file that is needed.  A directory can be opened, but not read, and what has no
end cannot be held. -/
def Files.contents (files : Files) (path : String) : Except InputFault Bytes :=
  match files.find path with
  | .error cause => .error (.cannotOpen path cause)
  | .ok .directory => .error (.cannotRead path .isDirectory)
  | .ok .socket | .ok (.special .terminal) => .error (.cannotOpen path .noSuchDevice)
  | .ok (.special .null) | .ok (.special .output) => .ok []
  | .ok (.special .zero) | .ok (.special .full) => .error (.cannotRead path .outOfMemory)
  | .ok (.file contents) => .ok contents

def Files.structure {α : Type} (files : Files) (path : String) (decoder : Decoder α) :
    Except InputFault α := do
  let contents ← files.contents path
  (decoder.complete contents).mapError (.contents path)

theorem Files.contents_store (files after : Files) (path : String) (place : Place) (bytes : Bytes)
    (made : files.create path = .ok place)
    (plain : ∀ kind, files.node? place ≠ some (.special kind))
    (stored : files.store place bytes = .ok after) : after.contents path = .ok bytes := by
  rw [contents, find_store files after path place bytes made plain stored]

namespace Tool

namespace SecretSource

def secret? (source : SecretSource) (files : Files) : Except InputFault (Option Secret) :=
  match source.password?, source.file? with
  | some _, some _ => .error .twoSecrets
  | some password, none => .ok (some (.ofPassword password))
  | none, none => .ok none
  | none, some path =>
    match files.contents path with
    | .error fault => .error fault
    | .ok contents => ((Secret.ofBytes contents).map some).mapError (.contents path)

def secret (source : SecretSource) (entity : String) (files : Files) : Except InputFault Secret :=
  match source.secret? files with
  | .error fault => .error fault
  | .ok none => .error (.secretMissing entity)
  | .ok (some secret) => .ok secret

theorem secret_eq_ok_iff (source : SecretSource) (entity : String) (files : Files)
    (secret : Secret) :
    source.secret entity files = .ok secret ↔ source.secret? files = .ok (some secret) := by
  unfold SecretSource.secret
  split <;> rename_i found <;> simp [found]

end SecretSource

def label (width : Nat) (text : String) : Except InputFault (Block width) :=
  let bytes := Bytes.ofText text
  if width < bytes.length then .error (.labelTooLong text width) else .ok (.padded width bytes)

theorem label_eq_ok_iff (width : Nat) (text : String) (block : Block width) :
    label width text = .ok block ↔
      (Bytes.ofText text).length ≤ width ∧ block = .padded width (Bytes.ofText text) := by
  unfold label
  by_cases long : width < (Bytes.ofText text).length
  · simp [long, Nat.not_le.mpr long]
  · simp [long, Nat.not_lt.mp long, eq_comm]

end Tool

end TrustedPlatform
