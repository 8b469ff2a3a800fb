import TrustedPlatform.Proofs.Channel.Reading
import TrustedPlatform.Proofs.Frame.RequestReading

/-!
# Taking requests apart

A module that knows how many handles each command has takes a frame apart from both ends: the header
and the handles from the front, and as many trailers from the end as the tag says
(`Request.receive`).  It finds the request that the frame was put together from, whatever its
parameters look like, so no frame is that of two requests: `Request.decomposes`.
-/

set_option autoImplicit false

namespace TrustedPlatform

def Tag.requestTrailers? : Tag → Option Nat
  | .request => some 0
  | .requestOneTrailer => some 1
  | .requestTwoTrailers => some 2
  | _ => none

theorem Tag.requestTrailers?_of_ofTrailers? (count : Nat) (tag : Tag)
    (known : ofTrailers? count = some tag) : tag.requestTrailers? = some count := by
  unfold ofTrailers? at known
  split at known
  · cases known
    rfl
  · cases known
    rfl
  · cases known
    rfl
  · cases known

namespace Request

def receiveBody (ordinal : Ordinal) (handles trailers : Nat) (body : Bytes) : Option Request :=
  let back := trailers * RequestTrailer.size
  if body.length < 4 * handles + back then none
  else
    ((Bytes.pieces RequestTrailer.size trailers (body.drop (body.length - back))).mapM fun piece =>
      (RequestTrailer.decode.complete piece).toOption).map fun trailers =>
        { ordinal
          handles := (Bytes.pieces 4 handles body).map fun word => .ofNat (Bytes.ofBigEndian word)
          parameters := (body.take (body.length - back)).drop (4 * handles)
          trailers }

def receive (handleCount : Ordinal → Nat) (frame : Bytes) : Option Request :=
  if frame.length < headerSize ∨ frame.lengthField ≠ frame.length then none
  else
    match Ordinal.ofCode? (.ofNat (Bytes.ofBigEndian ((frame.drop 6).take 4))),
      (Tag.ofCode? (.ofNat (Bytes.ofBigEndian (frame.take 2)))).bind Tag.requestTrailers? with
    | some ordinal, some trailers =>
      receiveBody ordinal (handleCount ordinal) trailers (frame.drop headerSize)
    | _, _ => none

theorem take_two_frame (request : Request) (tag : Tag) :
    (request.frame tag).take 2 = Bytes.word16 tag.code := by
  rw [frame]
  simp only [List.append_assoc]
  exact List.take_left' (Bytes.length_word16 tag.code)

theorem lengthField_frame (request : Request) (tag : Tag)
    (fits : (request.frame tag).length < Bytes.capacity 4) :
    Bytes.lengthField (request.frame tag) = (request.frame tag).length := by
  have length := request.length_frame tag
  have parts : request.frame tag = Bytes.word16 tag.code ++
      (Bytes.bigEndian 4 (request.frame tag).length ++
        (Bytes.word32 request.ordinal.code ++ (request.handles.flatMap Bytes.word32 ++
          (request.parameters ++ request.trailers.flatMap RequestTrailer.encode)))) := by
    rw [length, frame]
    simp only [List.append_assoc]
  have field : ((request.frame tag).drop 2).take 4 =
      Bytes.bigEndian 4 (request.frame tag).length := by
    rw [parts, List.drop_left' (Bytes.length_word16 tag.code), ← parts,
      List.take_left' (Bytes.length_bigEndian 4 _)]
  rw [Bytes.lengthField, field, Bytes.ofBigEndian_bigEndian 4 _ fits]

theorem drop_header_frame (request : Request) (tag : Tag) :
    (request.frame tag).drop headerSize =
      request.handles.flatMap Bytes.word32 ++
        (request.parameters ++ request.trailers.flatMap RequestTrailer.encode) := by
  have parts : request.frame tag =
      (Bytes.word16 tag.code ++
        Bytes.bigEndian 4 (headerSize + 4 * request.handles.length + request.parameters.length +
          request.trailers.length * RequestTrailer.size) ++
        Bytes.word32 request.ordinal.code) ++
      (request.handles.flatMap Bytes.word32 ++
        (request.parameters ++ request.trailers.flatMap RequestTrailer.encode)) := by
    rw [frame]
    simp only [List.append_assoc]
  rw [parts]
  refine List.drop_left' ?_
  rw [List.length_append, List.length_append, Bytes.length_word16, Bytes.length_bigEndian,
    Bytes.length_word32]
  rfl

theorem mapM_decode_trailers (trailers : List RequestTrailer) :
    ((trailers.map RequestTrailer.encode).mapM fun piece =>
      (RequestTrailer.decode.complete piece).toOption) = some trailers := by
  induction trailers with
  | nil => rfl
  | cons first others inductionHypothesis =>
    rw [List.map_cons, List.mapM_cons, inductionHypothesis,
      (RequestTrailer.reads.complete_iff first.encode first).mpr rfl]
    rfl

theorem receiveBody_eq (request : Request) :
    receiveBody request.ordinal request.handles.length request.trailers.length
        (request.handles.flatMap Bytes.word32 ++
          (request.parameters ++ request.trailers.flatMap RequestTrailer.encode)) =
      some request := by
  obtain ⟨ordinal, handles, parameters, trailers⟩ := request
  dsimp only
  let front := handles.flatMap Bytes.word32 ++ parameters
  let tail := trailers.flatMap RequestTrailer.encode
  have frontLength : (handles.flatMap Bytes.word32).length = 4 * handles.length :=
    Bytes.length_flatMap_word32 handles
  have tailLength : tail.length = trailers.length * RequestTrailer.size :=
    length_flatMap_encode trailers
  have before : (front ++ tail).length - trailers.length * RequestTrailer.size = front.length := by
    rw [List.length_append, tailLength, Nat.add_sub_cancel]
  have room : ¬ (front ++ tail).length <
      4 * handles.length + trailers.length * RequestTrailer.size := by
    rw [List.length_append, tailLength, List.length_append, frontLength]
    omega
  have handlesRead : (Bytes.pieces 4 handles.length (front ++ tail)).map
      (fun word => UInt32.ofNat (Bytes.ofBigEndian word)) = handles := by
    rw [List.append_assoc, Bytes.pieces_flatMap Bytes.word32 4 Bytes.length_word32, List.map_map]
    exact List.map_id'' Bytes.ofNat_ofBigEndian_word32 handles
  have trailersRead : (Bytes.pieces RequestTrailer.size trailers.length tail).mapM (fun piece =>
      (RequestTrailer.decode.complete piece).toOption) = some trailers := by
    have cut := Bytes.pieces_flatMap RequestTrailer.encode RequestTrailer.size
      RequestTrailer.length_encode trailers []
    rw [List.append_nil] at cut
    rw [cut, mapM_decode_trailers]
  rw [← List.append_assoc]
  change receiveBody ordinal handles.length trailers.length (front ++ tail) = _
  rw [receiveBody, if_neg room, before, List.drop_left, trailersRead, handlesRead, List.take_left,
    Option.map_some, List.drop_left' frontLength]

/-- A module that knows how many handles a command has finds every request in its frame. -/
theorem receive_frame (request : Request) (tag : Tag)
    (known : Tag.ofTrailers? request.trailers.length = some tag)
    (fits : (request.frame tag).length < Bytes.capacity 4) (handleCount : Ordinal → Nat)
    (handles : handleCount request.ordinal = request.handles.length) :
    receive handleCount (request.frame tag) = some request := by
  have framed : ¬ ((request.frame tag).length < headerSize ∨
      Bytes.lengthField (request.frame tag) ≠ (request.frame tag).length) := by
    rintro (short | different)
    · have length := request.length_frame tag
      omega
    · exact different (request.lengthField_frame tag fits)
  have ordinal : Ordinal.ofCode?
      (.ofNat (Bytes.ofBigEndian (((request.frame tag).drop 6).take 4))) =
        some request.ordinal := by
    rw [request.ordinal_frame, Bytes.ofNat_ofBigEndian_word32, Ordinal.ofCode?_code]
  have trailers : (Tag.ofCode? (.ofNat (Bytes.ofBigEndian ((request.frame tag).take 2)))).bind
      Tag.requestTrailers? = some request.trailers.length := by
    rw [request.take_two_frame, Bytes.ofNat_ofBigEndian_word16, Tag.ofCode?_code,
      Option.bind_some, Tag.requestTrailers?_of_ofTrailers? _ tag known]
  rw [receive, if_neg framed, ordinal, trailers]
  dsimp only
  rw [handles, drop_header_frame, receiveBody_eq]

/-- A request with at most two trailers, of a size that its length field holds, becomes a frame that
says how long it is and how many trailers it has, in which everyone who knows how many handles the
command has finds the request again, and which is read from a stream as it is.  No other request
with as many handles has the same frame, and no request has more than two trailers. -/
theorem decomposes (request : Request) :
    (3 ≤ request.trailers.length →
      request.encode = .error (.encoding (.tooManyTrailers request.trailers.length))) ∧
    (request.trailers.length ≤ 2 →
      headerSize + 4 * request.handles.length + request.parameters.length +
        request.trailers.length * RequestTrailer.size < 0x100000000 →
      ∃ frame, request.encode = .ok frame ∧ frame.lengthField = frame.length ∧
        Bytes.ofBigEndian (frame.take 2) = 0xc1 + request.trailers.length ∧
        (∀ handleCount : Ordinal → Nat, handleCount request.ordinal = request.handles.length →
          receive handleCount frame = some request) ∧
        (∀ (limit : Nat) (patience : Duration) (later : Bytes) (closed : Bool),
          frame.length ≤ limit →
          (Inflow.readFrame limit patience).run ⟨frame ++ later, closed⟩ =
            (.ok frame, ⟨later, closed⟩)) ∧
        ∀ other : Request, other.handles.length = request.handles.length →
          other.encode = .ok frame → other = request) := by
  constructor
  · intro three
    have trailers : request.draft.trailers = request.trailers.length := by rw [draft_eq]
    have none : Tag.ofTrailers? request.trailers.length = none := by
      match request.trailers.length, three with
      | _ + 3, _ => rfl
    rw [encode, Draft.finish, trailers, none]
  · intro two small
    obtain ⟨tag, known, code⟩ : ∃ tag, Tag.ofTrailers? request.trailers.length = some tag ∧
        tag.code.toNat = 0xc1 + request.trailers.length := by
      match request.trailers.length, two with
      | 0, _ => exact ⟨_, rfl, rfl⟩
      | 1, _ => exact ⟨_, rfl, rfl⟩
      | 2, _ => exact ⟨_, rfl, rfl⟩
    have fits : (request.frame tag).length < Bytes.capacity 4 := by
      rw [length_frame]
      exact small
    have declared := request.lengthField_frame tag fits
    refine ⟨request.frame tag, (request.encode_eq_ok_iff _).mpr ⟨tag, known, fits, rfl⟩, declared,
      ?_, request.receive_frame tag known fits, ?_, ?_⟩
    · rw [request.take_two_frame, Bytes.word16,
        Bytes.ofBigEndian_bigEndian 2 _ (Bytes.toNat_lt_capacity_two _), code]
    · intro limit patience later closed within
      refine (Inflow.run_readFrame_eq_ok_iff limit patience _ ⟨later, closed⟩ _).mpr
        ⟨⟨?_, within, declared⟩, rfl⟩
      rw [length_frame]
      omega
    · intro other handles also
      obtain ⟨otherTag, otherKnown, otherFits, same⟩ := (other.encode_eq_ok_iff _).mp also
      have found := request.receive_frame tag known fits (fun _ => request.handles.length) rfl
      rw [same, other.receive_frame otherTag otherKnown otherFits _ handles.symm] at found
      exact Option.some.inj found

/-- Parameters that look like a trailer stay parameters. -/
theorem decomposes_of_lookalike :
    let trailer : RequestTrailer := ⟨7, .replicate 20 1, true, .replicate 20 2⟩
    let request : Request := ⟨.sign, [0x1000000], trailer.encode, [trailer, trailer]⟩
    ∃ frame, request.encode = .ok frame ∧ receive (fun _ => 1) frame = some request := by
  intro trailer request
  obtain ⟨frame, encoded, _, _, received, _⟩ := (decomposes request).2 (by decide) (by decide)
  exact ⟨frame, encoded, received (fun _ => 1) rfl⟩

end Request

end TrustedPlatform
