import TrustedPlatform.Proofs.Wire.Malformed

/-!
# Splitting responses

A response with at most two trailers is written in one way (`Response.Spells`).  It is taken apart
into its code, its parameters and its trailers exactly where that writing stands and the count of
trailers is the one expected; all other bytes are malformed: `Response.splitsExactly`.
-/

set_option autoImplicit false

namespace TrustedPlatform

theorem Tag.responseTrailers?_eq_some_iff (tag : Tag) (count : Nat) :
    tag.responseTrailers? = some count ↔ count ≤ 2 ∧ tag.code.toNat = 0xc4 + count := by
  cases tag <;> simp [responseTrailers?, code] <;> omega

namespace Response

/-- Some bytes are the response with a code, parameters and trailers. -/
structure Spells (bytes : Bytes) (code : UInt32) (parameters : Bytes)
    (trailers : List ResponseTrailer) : Prop where
  few : trailers.length ≤ 2
  fits : bytes.length < 0x100000000
  written : bytes = Bytes.bigEndian 2 (0xc4 + trailers.length) ++
    Bytes.bigEndian 4 bytes.length ++ Bytes.word32 code ++ parameters ++
      trailers.flatMap ResponseTrailer.encode

theorem parse_splitTrailers_iff (received : Bytes) (expected : Nat) (response : Response)
    (parameters : Bytes) (trailers : List ResponseTrailer) :
    (parse received = .ok response ∧
        response.splitTrailers expected = .ok (parameters, trailers)) ↔
      trailers.length = expected ∧ Spells received response.code parameters trailers ∧
        response.tag.code.toNat = 0xc4 + expected ∧
        response.data = parameters ++ trailers.flatMap ResponseTrailer.encode := by
  rw [parse_eq_ok_iff, splitTrailers_eq_ok_iff]
  constructor
  · rintro ⟨⟨isResponse, fits, framed⟩, announced, length, data⟩
    rw [response.announced_eq_iff expected isResponse, Tag.responseTrailers?_eq_some_iff]
      at announced
    obtain ⟨few, tagged⟩ := announced
    refine ⟨length, ⟨length.symm ▸ few, fits, ?_⟩, tagged, data⟩
    have size := response.length_frame
    rw [← framed] at size
    rw [size, length, ← tagged, List.append_assoc, ← data]
    exact framed
  · rintro ⟨length, spells, tagged, data⟩
    have few := spells.few
    have written := spells.written
    rw [length] at few
    have known : response.tag.responseTrailers? = some expected :=
      (Tag.responseTrailers?_eq_some_iff _ _).mpr ⟨few, tagged⟩
    have isResponse : response.tag.responseTrailers?.isSome = true := by
      rw [known]
      rfl
    rw [length, ← tagged, List.append_assoc, ← data] at written
    have size := congrArg List.length written
    rw [List.length_append, List.length_append, List.length_append, Bytes.length_bigEndian,
      Bytes.length_bigEndian, Bytes.length_word32] at size
    refine ⟨⟨isResponse, spells.fits, ?_⟩,
      (response.announced_eq_iff expected isResponse).mpr known, length, data⟩
    have total : headerSize + response.data.length = received.length := size.symm
    rw [Response.frame, total]
    exact written

theorem exists_spells (code : UInt32) (parameters : Bytes) (trailers : List ResponseTrailer)
    (few : trailers.length ≤ 2)
    (small : headerSize + parameters.length + trailers.length * ResponseTrailer.size <
      0x100000000) :
    ∃ response : Response, Spells response.frame code parameters trailers ∧
      response.code = code ∧ response.tag.code.toNat = 0xc4 + trailers.length ∧
      response.data = parameters ++ trailers.flatMap ResponseTrailer.encode := by
  obtain ⟨tag, tagged⟩ : ∃ tag : Tag, tag.code.toNat = 0xc4 + trailers.length := by
    match trailers.length, few with
    | 0, _ => exact ⟨.response, rfl⟩
    | 1, _ => exact ⟨.responseOneTrailer, rfl⟩
    | 2, _ => exact ⟨.responseTwoTrailers, rfl⟩
  let response : Response := ⟨tag, code, parameters ++ trailers.flatMap ResponseTrailer.encode⟩
  have size := response.length_frame
  refine ⟨response, ⟨few, ?_, ?_⟩, rfl, tagged, rfl⟩
  · rw [size, List.length_append, length_flatMap_encode]
    omega
  · rw [size, ← tagged, List.append_assoc]
    rfl

/-- Bytes are taken apart into a response with as many trailers as expected exactly where they spell
it, and otherwise they are found to be malformed.  Every response with at most two trailers, of a
size that its length field holds, is spelt by a frame and found in it; one that announces another
count of trailers than expected yields nothing. -/
theorem splitsExactly (received : Bytes) (expected : Nat) :
    (∀ (response : Response) (parameters : Bytes) (trailers : List ResponseTrailer),
      (parse received = .ok response ∧
          response.splitTrailers expected = .ok (parameters, trailers)) ↔
        trailers.length = expected ∧ Spells received response.code parameters trailers ∧
          response.tag.code.toNat = 0xc4 + expected ∧
          response.data = parameters ++ trailers.flatMap ResponseTrailer.encode) ∧
    ((¬ ∃ code parameters trailers,
        trailers.length = expected ∧ Spells received code parameters trailers) →
      (∃ cause, parse received = .error (.malformed cause)) ∨
        ∃ response cause, parse received = .ok response ∧
          response.splitTrailers expected = .error (.malformed cause)) ∧
    (∀ (code : UInt32) (parameters : Bytes) (trailers : List ResponseTrailer),
      trailers.length ≤ 2 →
      headerSize + parameters.length + trailers.length * ResponseTrailer.size < 0x100000000 →
      ∃ frame response, Spells frame code parameters trailers ∧ parse frame = .ok response ∧
        response.code = code ∧
        response.splitTrailers trailers.length = .ok (parameters, trailers)) ∧
    ∀ response, parse received = .ok response → response.announced ≠ expected →
      ∃ cause, response.splitTrailers expected = .error (.malformed cause) := by
  have malformed (response : Response) (fault : Fault)
      (failed : response.splitTrailers expected = .error fault) :
      ∃ cause, response.splitTrailers expected = .error (.malformed cause) := by
    obtain ⟨cause, rfl⟩ := isMalformed_of_splitTrailers response expected fault failed
    exact ⟨cause, failed⟩
  refine ⟨parse_splitTrailers_iff received expected, fun unspelt => ?_,
    fun code parameters trailers few small => ?_, fun response _ different => ?_⟩
  · cases parsed : parse received with
    | error fault =>
      obtain ⟨cause, rfl⟩ := isMalformed_of_parse received fault parsed
      exact Or.inl ⟨cause, rfl⟩
    | ok response =>
      cases split : response.splitTrailers expected with
      | error fault =>
        obtain ⟨cause, same⟩ := malformed response fault split
        exact Or.inr ⟨response, cause, rfl, same⟩
      | ok parts =>
        obtain ⟨parameters, trailers⟩ := parts
        obtain ⟨length, spells, _⟩ :=
          (parse_splitTrailers_iff received expected response parameters trailers).mp
            ⟨parsed, split⟩
        exact absurd ⟨_, _, _, length, spells⟩ unspelt
  · obtain ⟨response, spells, coded, tagged, data⟩ :=
      exists_spells code parameters trailers few small
    obtain ⟨parsed, split⟩ := (parse_splitTrailers_iff response.frame trailers.length response
      parameters trailers).mpr ⟨rfl, coded ▸ spells, tagged, data⟩
    exact ⟨response.frame, response, spells, parsed, coded, split⟩
  · cases split : response.splitTrailers expected with
    | error fault =>
      rw [← split]
      exact malformed response fault split
    | ok parts =>
      exact absurd ((splitTrailers_eq_ok_iff response expected parts.1 parts.2).mp split).1
        different

/-- A response with one trailer is split where one is expected, and refused where two are. -/
theorem splitsExactly_of_one_trailer :
    let trailer : ResponseTrailer := ⟨.replicate 20 1, true, .replicate 20 2⟩
    ∃ frame response, Spells frame 0 [1, 2] [trailer] ∧ parse frame = .ok response ∧
      response.splitTrailers 1 = .ok ([1, 2], [trailer]) ∧
      ∃ cause, response.splitTrailers 2 = .error (.malformed cause) := by
  intro trailer
  obtain ⟨frame, response, spells, parsed, _, split⟩ :=
    (splitsExactly [] 1).2.2.1 0 [1, 2] [trailer] (by decide) (by decide)
  have announced : response.announced = 1 :=
    ((splitTrailers_eq_ok_iff response 1 _ _).mp split).1
  have refused := (splitsExactly frame 2).2.2.2 response parsed (by rw [announced]; decide)
  exact ⟨frame, response, spells, parsed, split, refused⟩

end Response

end TrustedPlatform
