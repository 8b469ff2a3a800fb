import TrustedPlatform.Frame.Request
import TrustedPlatform.Proofs.Frame.ResponseGrammar

/-!
# The grammar of requests

A request is its header, its handles, its parameters and its trailers, one after the other.  It is
refused exactly when its length does not fit the field for it: `Request.encode_eq`.
-/

set_option autoImplicit false

namespace TrustedPlatform.Request

def frame (request : Request) (tag : Tag) : Bytes :=
  Bytes.word16 tag.code ++
    Bytes.bigEndian 4 (headerSize + 4 * request.handles.length + request.parameters.length +
      request.trailers.length * RequestTrailer.size) ++
    Bytes.word32 request.ordinal.code ++ request.handles.flatMap Bytes.word32 ++
    request.parameters ++ request.trailers.flatMap RequestTrailer.encode

theorem length_flatMap_encode (trailers : List RequestTrailer) :
    (trailers.flatMap RequestTrailer.encode).length = trailers.length * RequestTrailer.size :=
  Bytes.length_flatMap_of_sized _ _ RequestTrailer.length_encode trailers

theorem length_frame (request : Request) (tag : Tag) :
    (request.frame tag).length =
      headerSize + 4 * request.handles.length + request.parameters.length +
        request.trailers.length * RequestTrailer.size := by
  simp only [frame, List.length_append, Bytes.length_word16, Bytes.length_bigEndian,
    Bytes.length_word32, Bytes.length_flatMap_word32, length_flatMap_encode, headerSize]

theorem ordinal_frame (request : Request) (tag : Tag) :
    ((request.frame tag).drop 6).take 4 = Bytes.word32 request.ordinal.code := by
  have parts : request.frame tag =
      (Bytes.word16 tag.code ++
        Bytes.bigEndian 4 (headerSize + 4 * request.handles.length + request.parameters.length +
          request.trailers.length * RequestTrailer.size)) ++
      (Bytes.word32 request.ordinal.code ++ (request.handles.flatMap Bytes.word32 ++
        request.parameters ++ request.trailers.flatMap RequestTrailer.encode)) := by
    rw [frame]
    simp only [List.append_assoc]
  have start : (Bytes.word16 tag.code ++
      Bytes.bigEndian 4 (headerSize + 4 * request.handles.length + request.parameters.length +
        request.trailers.length * RequestTrailer.size)).length = 6 := by
    rw [List.length_append, Bytes.length_word16, Bytes.length_bigEndian]
  rw [parts, List.drop_left' start]
  exact List.take_left' (Bytes.length_word32 _)

theorem size_draft (request : Request) (tag : Tag) :
    request.draft.size = (request.frame tag).length := by
  rw [length_frame, draft_eq, Draft.size]
  simp only [List.length_append, Bytes.length_flatMap_word32, length_flatMap_encode]
  omega

theorem encode_eq (request : Request) (tag : Tag)
    (known : Tag.ofTrailers? request.trailers.length = some tag) :
    request.encode =
      if (request.frame tag).length < Bytes.capacity 4 then .ok (request.frame tag)
      else .error (.encoding .requestTooLarge) := by
  have trailers : request.draft.trailers = request.trailers.length := by rw [draft_eq]
  have written : Bytes.word16 tag.code ++ Bytes.bigEndian 4 request.draft.size ++
      Bytes.word32 request.draft.ordinal.code ++ request.draft.body = request.frame tag := by
    rw [size_draft request tag, length_frame, draft_eq, frame]
    simp only [List.append_assoc]
  unfold encode Draft.finish
  rw [trailers, known]
  dsimp only
  rw [written, size_draft request tag]

theorem encode_eq_ok_iff (request : Request) (bytes : Bytes) :
    request.encode = .ok bytes ↔
      ∃ tag, Tag.ofTrailers? request.trailers.length = some tag ∧
        (request.frame tag).length < Bytes.capacity 4 ∧ bytes = request.frame tag := by
  constructor
  · intro success
    have trailers : request.draft.trailers = request.trailers.length := by rw [draft_eq]
    obtain ⟨_, tag, known, _⟩ := (Draft.finish_eq_ok_iff _ _).mp success
    rw [trailers] at known
    rw [request.encode_eq tag known] at success
    by_cases fits : (request.frame tag).length < Bytes.capacity 4
    · rw [if_pos fits] at success
      cases success
      exact ⟨tag, known, fits, rfl⟩
    · rw [if_neg fits] at success
      cases success
  · rintro ⟨tag, known, fits, rfl⟩
    rw [request.encode_eq tag known, if_pos fits]

end TrustedPlatform.Request
