import TrustedPlatform.Digest.Sha1
import TrustedPlatform.Structure.RegisterSelection

/-!
# Platform configuration registers

A register is never written: it is extended, by hashing its value together with the new one.  A
register therefore stands for the whole sequence of values it was extended with, and that sequence
can be replayed to predict it.

* `replay_append`: a replay can be cut in two.
-/

set_option autoImplicit false

namespace TrustedPlatform.Register

def extend (current value : Digest) : Digest := Sha1.hash (current.bytes ++ value.bytes)

def replay (initial : Digest) (values : List Digest) : Digest := values.foldl extend initial

@[simp] theorem replay_nil (initial : Digest) : replay initial [] = initial := rfl

@[simp] theorem replay_cons (initial value : Digest) (values : List Digest) :
    replay initial (value :: values) = replay (extend initial value) values := rfl

theorem replay_append (initial : Digest) (first second : List Digest) :
    replay initial (first ++ second) = replay (replay initial first) second := by
  simp [replay]

def compositeBytes (selection : RegisterSelection) (values : List Digest) : Except Fault Bytes :=
  if selection.indices.length ≠ values.length then
    .error (.encoding (.valueCount selection.indices.length values.length))
  else do
    let bitmap ← selection.encode
    let contents ← Bytes.sized (values.flatMap Block.bytes)
    return bitmap ++ contents

def compositeHash (selection : RegisterSelection) (values : List Digest) : Except Fault Digest :=
  (compositeBytes selection values).map Sha1.hash

end TrustedPlatform.Register
