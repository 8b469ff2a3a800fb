import TrustedPlatform.Structure.Trailer

/-!
# Request frames

A request is a tag, its own length, the number of the command, then handles, parameters and
authorization trailers.  The tag announces the count of trailers, so it and the length are known
only when everything else is.

* `Draft.finish_eq_ok_iff`: a draft can be finished exactly when it has at most two trailers and
  its length fits four bytes.
* `Request.draft_eq`: a whole request is its handles, parameters and trailers one after the other.
-/

set_option autoImplicit false

namespace TrustedPlatform

/-- The length of what every frame begins with: tag, length and number. -/
def headerSize : Nat := 10

structure Draft where
  ordinal : Ordinal
  body : Bytes
  trailers : Nat
  deriving DecidableEq, Repr

namespace Draft

def start (ordinal : Ordinal) : Draft := ⟨ordinal, [], 0⟩

def addBytes (draft : Draft) (bytes : Bytes) : Draft := { draft with body := draft.body ++ bytes }

def addHandle (draft : Draft) (handle : UInt32) : Draft := draft.addBytes (Bytes.word32 handle)

def addTrailer (draft : Draft) (trailer : RequestTrailer) : Draft :=
  { draft.addBytes trailer.encode with trailers := draft.trailers + 1 }

def size (draft : Draft) : Nat := headerSize + draft.body.length

def finish (draft : Draft) : Except Fault Bytes :=
  match Tag.ofTrailers? draft.trailers with
  | none => .error (.encoding (.tooManyTrailers draft.trailers))
  | some tag =>
    if draft.size < Bytes.capacity 4 then
      .ok (Bytes.word16 tag.code ++ Bytes.bigEndian 4 draft.size ++
        Bytes.word32 draft.ordinal.code ++ draft.body)
    else .error (.encoding .requestTooLarge)

theorem finish_eq_ok_iff (draft : Draft) (frame : Bytes) :
    draft.finish = .ok frame ↔
      draft.size < Bytes.capacity 4 ∧ ∃ tag, Tag.ofTrailers? draft.trailers = some tag ∧
        frame = Bytes.word16 tag.code ++ Bytes.bigEndian 4 draft.size ++
          Bytes.word32 draft.ordinal.code ++ draft.body := by
  unfold finish
  cases found : Tag.ofTrailers? draft.trailers with
  | none => simp
  | some tag =>
    dsimp only
    by_cases fits : draft.size < Bytes.capacity 4
    · rw [if_pos fits]
      constructor
      · intro same
        exact ⟨fits, tag, rfl, (Except.ok.inj same).symm⟩
      · rintro ⟨_, _, same, shown⟩
        cases same
        rw [shown]
    · rw [if_neg fits]
      simp only [reduceCtorEq, fits, false_and]

end Draft

structure Request where
  ordinal : Ordinal
  -- The handles the command works on; no authorization covers them.
  handles : List UInt32
  parameters : Bytes
  trailers : List RequestTrailer
  deriving DecidableEq

namespace Request

def draft (request : Request) : Draft :=
  request.trailers.foldl Draft.addTrailer
    ((request.handles.foldl Draft.addHandle (.start request.ordinal)).addBytes request.parameters)

def encode (request : Request) : Except Fault Bytes := request.draft.finish

theorem foldl_addHandle (draft : Draft) (handles : List UInt32) :
    handles.foldl Draft.addHandle draft = draft.addBytes (handles.flatMap Bytes.word32) := by
  induction handles generalizing draft with
  | nil => simp [Draft.addBytes]
  | cons handle handles inductionHypothesis =>
    simp [inductionHypothesis, Draft.addHandle, Draft.addBytes]

theorem foldl_addTrailer (draft : Draft) (trailers : List RequestTrailer) :
    trailers.foldl Draft.addTrailer draft =
      { draft.addBytes (trailers.flatMap RequestTrailer.encode) with
        trailers := draft.trailers + trailers.length } := by
  induction trailers generalizing draft with
  | nil => simp [Draft.addBytes]
  | cons trailer trailers inductionHypothesis =>
    simp [inductionHypothesis, Draft.addTrailer, Draft.addBytes]
    omega

/-- A whole request is the draft with its handles, parameters and trailers one after the other. -/
theorem draft_eq (request : Request) :
    request.draft =
      ⟨request.ordinal,
        request.handles.flatMap Bytes.word32 ++ request.parameters ++
          request.trailers.flatMap RequestTrailer.encode,
        request.trailers.length⟩ := by
  simp [draft, foldl_addHandle, foldl_addTrailer, Draft.addBytes, Draft.start]

end Request

end TrustedPlatform
