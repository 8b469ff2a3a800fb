import TrustedPlatform.Frame.Response
import TrustedPlatform.Proofs.Structure.Written

/-!
# The grammar of responses

A response frame is written by `Response.frame`, and nothing else is read as a response:
`Response.parse_eq_ok_iff`.  The trailers that its tag announces stand at its end, one after the
other: `Response.splitTrailers_eq_ok_iff`.
-/

set_option autoImplicit false

namespace TrustedPlatform

namespace Response

def frame (response : Response) : Bytes :=
  Bytes.word16 response.tag.code ++ Bytes.bigEndian 4 (headerSize + response.data.length) ++
    Bytes.word32 response.code ++ response.data

theorem length_frame (response : Response) :
    response.frame.length = headerSize + response.data.length := by
  simp only [frame, List.length_append, Bytes.length_word16, Bytes.length_bigEndian,
    Bytes.length_word32, headerSize]

theorem tagOf_eq_ok_iff (code : UInt16) (tag : Tag) :
    tagOf code = .ok tag ↔ code = tag.code ∧ tag.responseTrailers?.isSome = true := by
  unfold tagOf
  constructor
  · intro found
    cases chosen : (Tag.ofCode? code).filter fun tag => tag.responseTrailers?.isSome with
    | none =>
      rw [chosen] at found
      cases found
    | some other =>
      rw [chosen] at found
      cases found
      obtain ⟨known, isResponse⟩ := Option.filter_eq_some_iff.mp chosen
      have same := List.find?_some known
      exact ⟨(beq_iff_eq.mp same).symm, isResponse⟩
  · rintro ⟨rfl, isResponse⟩
    rw [Tag.ofCode?_code, Option.filter_some, if_pos isResponse]

theorem word32_eq_bigEndian_iff (number : UInt32) (length : Nat) (fits : length < Bytes.capacity 4) :
    Bytes.word32 number = Bytes.bigEndian 4 length ↔ length = number.toNat := by
  constructor
  · intro same
    have numberFits : number.toNat < Bytes.capacity 4 := by
      simpa [Bytes.capacity] using number.toNat_lt
    rw [← Bytes.ofBigEndian_bigEndian 4 length fits, ← same, Bytes.word32,
      Bytes.ofBigEndian_bigEndian 4 number.toNat numberFits]
  · rintro rfl
    rfl

/-- A frame is read as a response exactly when it is the frame of that response, its tag is that
of a response, and its length fits the field for it. -/
theorem parse_eq_ok_iff (received : Bytes) (response : Response) :
    parse received = .ok response ↔
      response.tag.responseTrailers?.isSome = true ∧ received.length < Bytes.capacity 4 ∧
        received = response.frame := by
  have opened : parse received = .ok response ↔
      headerSize ≤ received.length ∧
        ∃ after, (decode received.length).run (Reader.ofBytes received) =
          (.ok response, after) := by
    unfold parse
    by_cases short : received.length < headerSize
    · rw [if_pos short]
      constructor
      · intro failed
        cases failed
      · rintro ⟨enough, _⟩
        omega
    · rw [if_neg short]
      constructor
      · intro success
        exact ⟨by omega, _, Prod.ext success rfl⟩
      · rintro ⟨_, after, success⟩
        rw [success]
  rw [opened, decode]
  constructor
  · rintro ⟨_, after, success⟩
    obtain ⟨code, second, readTag, afterCode⟩ := (Action.bind_eq_ok_iff _ _ _ _ _).mp success
    obtain ⟨tag, third, known, afterTag⟩ := (Action.bind_eq_ok_iff _ _ _ _ _).mp afterCode
    obtain ⟨declared, fourth, readSize, afterSize⟩ :=
      (Action.bind_eq_ok_iff _ _ _ _ _).mp afterTag
    rw [Action.run_ofExcept] at known
    obtain ⟨found, rfl⟩ := Prod.mk.inj known
    obtain ⟨rfl, isResponse⟩ := (tagOf_eq_ok_iff _ _).mp found
    dsimp only at afterSize
    by_cases agreed : received.length = declared.toNat
    · rw [if_neg (fun different => different agreed)] at afterSize
      obtain ⟨result, sixth, readCode, afterResult⟩ :=
        (Action.bind_eq_ok_iff _ _ _ _ _).mp afterSize
      obtain ⟨data, last, readRest, shown⟩ := (Action.bind_eq_ok_iff _ _ _ _ _).mp afterResult
      rw [Action.run_pure] at shown
      cases shown
      obtain ⟨splitTag, _⟩ := (Decoder.run_word16_eq_ok_iff _ _ _).mp readTag
      obtain ⟨splitSize, _⟩ := (Decoder.run_word32_eq_ok_iff _ _ _).mp readSize
      obtain ⟨splitCode, _⟩ := (Decoder.run_word32_eq_ok_iff _ _ _).mp readCode
      obtain ⟨rfl, _⟩ := (Decoder.run_rest_eq_ok_iff _ _ _).mp readRest
      have whole : received = Bytes.word16 tag.code ++ Bytes.word32 declared ++
          Bytes.word32 result ++ sixth.rest := by
        have start : received = Bytes.word16 tag.code ++ second.rest := splitTag
        rw [start, splitSize, splitCode]
        simp only [List.append_assoc]
      have size : received.length = headerSize + sixth.rest.length := by
        rw [whole]
        simp only [List.length_append, Bytes.length_word16, Bytes.length_word32, headerSize]
      have fits : received.length < Bytes.capacity 4 := by
        rw [agreed]
        simpa [Bytes.capacity] using declared.toNat_lt
      refine ⟨isResponse, fits, ?_⟩
      rw [frame, ← size, ← (word32_eq_bigEndian_iff declared received.length fits).mpr agreed]
      exact whole
    · rw [if_pos agreed] at afterSize
      cases afterSize
  · rintro ⟨isResponse, fits, rfl⟩
    obtain ⟨tag, code, data⟩ := response
    have size := length_frame ⟨tag, code, data⟩
    dsimp only at isResponse size
    have wide : headerSize + data.length < UInt32.size := by
      rw [size] at fits
      simpa [Bytes.capacity, UInt32.size] using fits
    have declared :
        (UInt32.ofNat (headerSize + data.length)).toNat = headerSize + data.length := by
      rw [UInt32.toNat_ofNat', Nat.mod_eq_of_lt wide]
    have field : Bytes.word32 (UInt32.ofNat (headerSize + data.length)) =
        Bytes.bigEndian 4 (headerSize + data.length) :=
      (word32_eq_bigEndian_iff _ _ (by rw [← size]; exact fits)).mpr declared.symm
    refine ⟨by omega, ⟨10 + data.length, []⟩, ?_⟩
    refine (Action.bind_eq_ok_iff _ _ _ _ _).mpr ⟨tag.code,
      ⟨2, Bytes.bigEndian 4 (headerSize + data.length) ++ (Bytes.word32 code ++ data)⟩,
      (Decoder.run_word16_eq_ok_iff _ _ _).mpr ⟨?_, rfl⟩, ?_⟩
    · simp only [Reader.ofBytes, frame, List.append_assoc]
    have known : tagOf tag.code = .ok tag := (tagOf_eq_ok_iff _ _).mpr ⟨rfl, isResponse⟩
    rw [Action.run_bind, Action.run_ofExcept, known]
    dsimp only
    refine (Action.bind_eq_ok_iff _ _ _ _ _).mpr ⟨UInt32.ofNat (headerSize + data.length),
      ⟨6, Bytes.word32 code ++ data⟩,
      (Decoder.run_word32_eq_ok_iff _ _ _).mpr ⟨by rw [field], rfl⟩, ?_⟩
    rw [if_neg (by rw [size, declared]; exact fun different => different rfl)]
    refine (Action.bind_eq_ok_iff _ _ _ _ _).mpr ⟨code, ⟨10, data⟩,
      (Decoder.run_word32_eq_ok_iff _ _ _).mpr ⟨rfl, rfl⟩, ?_⟩
    exact (Action.bind_eq_ok_iff _ _ _ _ _).mpr ⟨data, ⟨10 + data.length, []⟩,
      (Decoder.run_rest_eq_ok_iff _ _ _).mpr ⟨rfl, rfl⟩, Action.run_pure _ _⟩

theorem trailersOf_succ (count : Nat) (bytes : Bytes) :
    trailersOf (count + 1) bytes =
      (ResponseTrailer.decode.complete (bytes.take ResponseTrailer.size) >>= fun first =>
        trailersOf count (bytes.drop ResponseTrailer.size) >>= fun others =>
          Except.ok (first :: others)) := by
  unfold trailersOf
  rw [Bytes.pieces, List.mapM_cons]
  rfl

theorem trailersOf_eq_ok_iff (count : Nat) (bytes : Bytes) (trailers : List ResponseTrailer)
    (exact : bytes.length = count * ResponseTrailer.size) :
    trailersOf count bytes = .ok trailers ↔
      trailers.length = count ∧ bytes = trailers.flatMap ResponseTrailer.encode := by
  induction count generalizing bytes trailers with
  | zero =>
    have empty : bytes = [] := List.length_eq_zero_iff.mp (by rw [exact, Nat.zero_mul])
    subst empty
    show Except.ok [] = Except.ok trailers ↔ _
    rw [Except.ok.injEq]
    constructor
    · rintro rfl
      exact ⟨rfl, rfl⟩
    · rintro ⟨none, _⟩
      exact (List.length_eq_zero_iff.mp none).symm
  | succ count inductionHypothesis =>
    have restLength : (bytes.drop ResponseTrailer.size).length = count * ResponseTrailer.size := by
      rw [List.length_drop, exact, Nat.succ_mul, Nat.add_sub_cancel]
    rw [trailersOf_succ]
    constructor
    · intro success
      cases readFirst : ResponseTrailer.decode.complete (bytes.take ResponseTrailer.size) with
      | error fault =>
        rw [readFirst] at success
        cases success
      | ok first =>
        cases readOthers : trailersOf count (bytes.drop ResponseTrailer.size) with
        | error fault =>
          rw [readFirst, readOthers] at success
          cases success
        | ok others =>
          rw [readFirst, readOthers] at success
          cases success
          have head := (ResponseTrailer.reads.complete_iff _ _).mp readFirst
          obtain ⟨length, tail⟩ := (inductionHypothesis _ _ restLength).mp readOthers
          refine ⟨by rw [List.length_cons, length], ?_⟩
          rw [List.flatMap_cons, ← head, ← tail, List.take_append_drop]
    · rintro ⟨length, written⟩
      cases trailers with
      | nil => cases length
      | cons first others =>
        rw [List.flatMap_cons] at written
        have taken : bytes.take ResponseTrailer.size = first.encode := by
          rw [written]
          exact List.take_left' first.length_encode
        have dropped : bytes.drop ResponseTrailer.size =
            others.flatMap ResponseTrailer.encode := by
          rw [written]
          exact List.drop_left' first.length_encode
        have others_length : others.length = count := by simpa using length
        rw [(ResponseTrailer.reads.complete_iff _ _).mpr taken,
          (inductionHypothesis _ _ restLength).mpr ⟨others_length, dropped⟩]
        rfl

theorem length_flatMap_encode (trailers : List ResponseTrailer) :
    (trailers.flatMap ResponseTrailer.encode).length =
      trailers.length * ResponseTrailer.size :=
  Bytes.length_flatMap_of_sized _ _ ResponseTrailer.length_encode trailers

theorem announced_eq_iff (response : Response) (count : Nat)
    (isResponse : response.tag.responseTrailers?.isSome = true) :
    response.announced = count ↔ response.tag.responseTrailers? = some count := by
  obtain ⟨announced, known⟩ := Option.isSome_iff_exists.mp isResponse
  rw [Response.announced, known, Option.getD_some, Option.some.injEq]

/-- The output splits into a body and trailers exactly when the tag announces that many trailers
and the output is the body followed by them. -/
theorem splitTrailers_eq_ok_iff (response : Response) (expected : Nat) (body : Bytes)
    (trailers : List ResponseTrailer) :
    response.splitTrailers expected = .ok (body, trailers) ↔
      response.announced = expected ∧ trailers.length = expected ∧
        response.data = body ++ trailers.flatMap ResponseTrailer.encode := by
  unfold splitTrailers
  by_cases agreed : response.announced = expected
  · rw [if_neg (fun different => different agreed)]
    by_cases short : response.data.length < expected * ResponseTrailer.size
    · rw [if_pos short]
      simp only [reduceCtorEq, false_iff, not_and]
      intro _ length split
      rw [split, List.length_append, length_flatMap_encode, length] at short
      omega
    · rw [if_neg short]
      have before : response.lengthBefore expected + expected * ResponseTrailer.size =
          response.data.length := by
        unfold lengthBefore
        omega
      have tailLength : (response.data.drop (response.lengthBefore expected)).length =
          expected * ResponseTrailer.size := by
        rw [List.length_drop]
        omega
      constructor
      · intro success
        cases read : trailersOf expected
            (response.data.drop (response.lengthBefore expected)) with
        | error fault =>
          rw [read] at success
          cases success
        | ok found =>
          rw [read] at success
          cases success
          obtain ⟨length, tail⟩ := (trailersOf_eq_ok_iff _ _ _ tailLength).mp read
          refine ⟨agreed, length, ?_⟩
          rw [← tail, List.take_append_drop]
      · rintro ⟨_, length, split⟩
        have bodyLength : body.length = response.lengthBefore expected := by
          have total := congrArg List.length split
          rw [List.length_append, length_flatMap_encode, length] at total
          omega
        have taken : response.data.take (response.lengthBefore expected) = body := by
          rw [split]
          exact List.take_left' bodyLength
        have dropped : response.data.drop (response.lengthBefore expected) =
            trailers.flatMap ResponseTrailer.encode := by
          rw [split]
          exact List.drop_left' bodyLength
        rw [(trailersOf_eq_ok_iff _ _ _ tailLength).mpr ⟨length, dropped⟩, taken]
        rfl
  · rw [if_pos agreed]
    simp only [reduceCtorEq, false_iff, not_and]
    intro announced
    exact absurd announced agreed

end Response

end TrustedPlatform
