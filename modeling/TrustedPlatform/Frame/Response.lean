import TrustedPlatform.Frame.Request

/-!
# Response frames

A response is a tag, its own length, a result code and the output.  The tag announces the count of
authorization trailers, which stand at the end of the output.

* `splitTrailers_length`: what is split off is exactly as long as the trailers that were expected.
-/

set_option autoImplicit false

namespace TrustedPlatform

structure Response where
  tag : Tag
  code : UInt32
  data : Bytes
  deriving DecidableEq, Repr

namespace Response

def tagOf (code : UInt16) : Except Fault Tag :=
  match (Tag.ofCode? code).filter fun tag => tag.responseTrailers?.isSome with
  | some tag => .ok tag
  | none => .error (.malformed (.responseTag code))

def decode (received : Nat) : Decoder Response := do
  let code ← Decoder.word16
  let tag ← Action.ofExcept (tagOf code)
  let declared ← Decoder.word32
  if received ≠ declared.toNat then
    throw (.malformed (.responseSize declared.toNat received))
  let code ← Decoder.word32
  let data ← Decoder.rest
  return ⟨tag, code, data⟩

def parse (frame : Bytes) : Except Fault Response :=
  if frame.length < headerSize then .error (.malformed (.responseTooShort frame.length))
  else ((decode frame.length).run (Reader.ofBytes frame)).1

def isSuccess (response : Response) : Bool := response.code = ResultCode.success

def announced (response : Response) : Nat := response.tag.responseTrailers?.getD 0

def trailersOf (count : Nat) (bytes : Bytes) : Except Fault (List ResponseTrailer) :=
  (Bytes.pieces ResponseTrailer.size count bytes).mapM fun piece =>
    ResponseTrailer.decode.complete piece

def lengthBefore (response : Response) (trailers : Nat) : Nat :=
  response.data.length - trailers * ResponseTrailer.size

/-- The output parameters and the trailers behind them.  The tag must announce exactly the count
of trailers expected: a response with fewer is never trusted. -/
def splitTrailers (response : Response) (expected : Nat) :
    Except Fault (Bytes × List ResponseTrailer) :=
  if response.announced ≠ expected then
    .error (.malformed (.trailerCount response.tag response.announced expected))
  else if response.data.length < expected * ResponseTrailer.size then
    .error (.malformed (.noRoomForTrailers response.data.length expected))
  else
    (trailersOf expected (response.data.drop (response.lengthBefore expected))).map fun trailers =>
      (response.data.take (response.lengthBefore expected), trailers)

theorem splitTrailers_length (response : Response) (expected : Nat) (parameters : Bytes)
    (trailers : List ResponseTrailer)
    (split : response.splitTrailers expected = .ok (parameters, trailers)) :
    response.data.length = parameters.length + expected * ResponseTrailer.size := by
  unfold splitTrailers at split
  split at split
  · cases split
  · split at split
    · cases split
    · rename_i enough
      cases found : trailersOf expected (response.data.drop (response.lengthBefore expected)) with
      | error fault =>
        rw [found] at split
        cases split
      | ok trailers =>
        rw [found] at split
        cases split
        simp only [List.length_take, lengthBefore]
        omega

end Response

end TrustedPlatform
