import TrustedPlatform.Bytes

/-!
# The hash

SHA-1: the message is closed with one marking byte, zeros and its length in bits, cut into blocks
of sixteen words, and folded into a state of five words by eighty rounds a block.

* `length_padded`: the closed message is a whole number of blocks.
-/

set_option autoImplicit false

namespace TrustedPlatform.Sha1

structure State where
  a : UInt32
  b : UInt32
  c : UInt32
  d : UInt32
  e : UInt32
  deriving DecidableEq, Repr

def initial : State :=
  ⟨0x67452301, 0xefcdab89, 0x98badcfe, 0x10325476, 0xc3d2e1f0⟩

def rotateLeft (word places : UInt32) : UInt32 :=
  (word <<< places) ||| (word >>> (32 - places))

def nextWord (newestFirst : List UInt32) : UInt32 :=
  rotateLeft (newestFirst.getD 2 0 ^^^ newestFirst.getD 7 0 ^^^ newestFirst.getD 13 0 ^^^
    newestFirst.getD 15 0) 1

def extendSchedule : Nat → List UInt32 → List UInt32
  | 0, newestFirst => newestFirst
  | count + 1, newestFirst => extendSchedule count (nextWord newestFirst :: newestFirst)

def schedule (block : Bytes) : List UInt32 :=
  let words := (Bytes.pieces 4 16 block).map fun word => UInt32.ofNat (Bytes.ofBigEndian word)
  (extendSchedule 64 words.reverse).reverse

def roundTerm (round : Nat) (state : State) : UInt32 :=
  if round < 20 then ((state.b &&& state.c) ||| (~~~state.b &&& state.d)) + 0x5a827999
  else if round < 40 then (state.b ^^^ state.c ^^^ state.d) + 0x6ed9eba1
  else if round < 60 then
    ((state.b &&& state.c) ||| (state.b &&& state.d) ||| (state.c &&& state.d)) + 0x8f1bbcdc
  else (state.b ^^^ state.c ^^^ state.d) + 0xca62c1d6

def rounds (round : Nat) (state : State) : List UInt32 → State
  | [] => state
  | word :: rest =>
    rounds (round + 1)
      ⟨rotateLeft state.a 5 + roundTerm round state + state.e + word, state.a,
        rotateLeft state.b 30, state.c, state.d⟩ rest

def compress (state : State) (block : Bytes) : State :=
  let mixed := rounds 0 state (schedule block)
  ⟨state.a + mixed.a, state.b + mixed.b, state.c + mixed.c, state.d + mixed.d, state.e + mixed.e⟩

def zeroCount (length : Nat) : Nat := (119 - length % 64) % 64

def padded (message : Bytes) : Bytes :=
  message ++ 0x80 :: List.replicate (zeroCount message.length) 0 ++
    Bytes.bigEndian 8 (message.length * 8)

def State.digest (state : State) : Digest where
  bytes := Bytes.word32 state.a ++ Bytes.word32 state.b ++ Bytes.word32 state.c ++
    Bytes.word32 state.d ++ Bytes.word32 state.e
  length_bytes := by simp

def blocks (closed : Bytes) : List Bytes := Bytes.pieces 64 (closed.length / 64) closed

def hash (message : Bytes) : Digest :=
  ((blocks (padded message)).foldl compress initial).digest

theorem length_padded (message : Bytes) : (padded message).length % 64 = 0 := by
  simp only [padded, zeroCount, List.length_append, List.length_cons, List.length_replicate,
    Bytes.length_bigEndian]
  omega

end TrustedPlatform.Sha1
