import TrustedPlatform.Channel.Framing
import TrustedPlatform.Proofs.Frame.ResponseGrammar

/-!
# Two ways to read a frame

A stream is read by the header first and the rest of the frame then; a device hands its bytes out in
reads of its own, which are gathered until they hold a frame.  What bytes come to as the beginning
of a frame is said once, without either way of reading (`Verdict.of`), and once they come to
something, further bytes change nothing (`Verdict.of_append`).  Both ways yield what the bytes come
to (`Inflow.run_readFrame`, `Inflow.gather_eq`), so they agree however the bytes are cut into reads:
`Inflow.readersAgree`.
-/

set_option autoImplicit false

namespace TrustedPlatform

def Bytes.lengthField (bytes : Bytes) : Nat := ofBigEndian ((bytes.drop 2).take 4)

theorem Bytes.lengthField_append (front later : Bytes) (enough : headerSize ≤ front.length) :
    (front ++ later).lengthField = front.lengthField := by
  have whole : 10 ≤ front.length := enough
  unfold lengthField
  rw [List.drop_append_of_le_length (by omega),
    List.take_append_of_le_length (by rw [List.length_drop]; omega)]

/-- What bytes come to, read as the beginning of a frame. -/
inductive Verdict where
  | short
  | refused (cause : MalformedCause)
  | frame (length : Nat)
  deriving DecidableEq

namespace Verdict

def of (limit : Nat) (bytes : Bytes) : Verdict :=
  if bytes.length < headerSize then .short
  else if bytes.lengthField < headerSize then
    .refused (.frameSmallerThanHeader bytes.lengthField)
  else if limit < bytes.lengthField then .refused (.frameTooLarge bytes.lengthField limit)
  else if bytes.length < bytes.lengthField then .short
  else .frame bytes.lengthField

def outcome (atEnd : Fault) (bytes : Bytes) : Verdict → Except Fault Bytes
  | .short => .error atEnd
  | .refused cause => .error (.malformed cause)
  | .frame length => .ok (bytes.take length)

theorem of_eq_frame_iff (limit : Nat) (bytes : Bytes) (length : Nat) :
    of limit bytes = .frame length ↔
      length = bytes.lengthField ∧ headerSize ≤ length ∧ length ≤ limit ∧
        length ≤ bytes.length := by
  unfold of
  split
  · simp only [reduceCtorEq, false_iff]
    omega
  · split
    · simp only [reduceCtorEq, false_iff]
      omega
    · split
      · simp only [reduceCtorEq, false_iff]
        omega
      · split
        · simp only [reduceCtorEq, false_iff]
          omega
        · rw [frame.injEq]
          omega

theorem of_append (limit : Nat) (front later : Bytes) (decided : of limit front ≠ .short) :
    of limit (front ++ later) = of limit front := by
  have enough : ¬ front.length < headerSize := fun short => decided (if_pos short)
  have same := Bytes.lengthField_append front later (Nat.not_lt.mp enough)
  have long : ¬ (front ++ later).length < headerSize := by
    rw [List.length_append]
    omega
  unfold of at decided ⊢
  rw [if_neg enough] at decided ⊢
  rw [if_neg long, same]
  split
  · rfl
  · split
    · rfl
    · rename_i small large
      rw [if_neg small, if_neg large] at decided
      have complete : ¬ front.length < front.lengthField := fun short => decided (if_pos short)
      rw [if_neg complete, if_neg (by rw [List.length_append]; omega)]

theorem outcome_append (atEnd : Fault) (front later : Bytes) (limit : Nat)
    (decided : of limit front ≠ .short) :
    (of limit front).outcome atEnd (front ++ later) = (of limit front).outcome atEnd front := by
  cases found : of limit front with
  | short => exact absurd found decided
  | refused cause => rfl
  | frame length =>
    obtain ⟨_, _, _, within⟩ := (of_eq_frame_iff _ _ _).mp found
    rw [outcome, List.take_append_of_le_length within]
    rfl

end Verdict

namespace Inflow

theorem run_readExact_of_short (activity : String) (patience : Duration) (count : Nat)
    (inflow : Inflow) (short : inflow.bytes.length < count) :
    (readExact activity patience count).run inflow =
      (.error (inflow.ended activity "failed to fill whole buffer" patience),
        { inflow with bytes := [] }) := by
  simp only [readExact, if_pos short]

theorem run_readExact_of_enough (activity : String) (patience : Duration) (count : Nat)
    (inflow : Inflow) (enough : ¬ inflow.bytes.length < count) :
    (readExact activity patience count).run inflow =
      (.ok (inflow.bytes.take count), { inflow with bytes := inflow.bytes.drop count }) := by
  simp only [readExact, if_neg enough]

/-- What a header says about the length of its frame, in the words of `Verdict.of`. -/
theorem declaredLength_eq (limit : Nat) (header : Bytes) :
    declaredLength limit header =
      if header.lengthField < headerSize then
        .error (.malformed (.frameSmallerThanHeader header.lengthField))
      else if limit < header.lengthField then
        .error (.malformed (.frameTooLarge header.lengthField limit))
      else .ok header.lengthField := rfl

/-- How a stream is left by reading a frame from it, with the frame if there is one. -/
theorem run_readFrame (limit : Nat) (patience : Duration) (inflow : Inflow) :
    ∃ activity, (readFrame limit patience).run inflow =
      ((Verdict.of limit inflow.bytes).outcome
          (inflow.ended activity "failed to fill whole buffer" patience) inflow.bytes,
        { inflow with
          bytes := match Verdict.of limit inflow.bytes with
            | .short => []
            | .refused _ => inflow.bytes.drop headerSize
            | .frame length => inflow.bytes.drop length }) := by
  unfold readFrame Verdict.of
  rw [Action.run_bind]
  by_cases headless : inflow.bytes.length < headerSize
  · rw [run_readExact_of_short _ _ _ _ headless, if_pos headless]
    exact ⟨"reading response header", rfl⟩
  · have header : Bytes.lengthField (inflow.bytes.take headerSize) =
        Bytes.lengthField inflow.bytes := by
      have split := Bytes.lengthField_append (inflow.bytes.take headerSize)
        (inflow.bytes.drop headerSize) (by rw [List.length_take]; omega)
      rw [← split, List.take_append_drop]
    rw [run_readExact_of_enough _ _ _ _ headless, if_neg headless]
    dsimp only
    rw [Action.run_bind, Action.run_ofExcept, declaredLength_eq, header]
    by_cases small : Bytes.lengthField inflow.bytes < headerSize
    · rw [if_pos small, if_pos small]
      exact ⟨"", rfl⟩
    · rw [if_neg small, if_neg small]
      by_cases large : limit < Bytes.lengthField inflow.bytes
      · rw [if_pos large, if_pos large]
        exact ⟨"", rfl⟩
      · rw [if_neg large, if_neg large]
        dsimp only
        rw [Action.run_bind]
        by_cases cutOff : inflow.bytes.length < Bytes.lengthField inflow.bytes
        · rw [run_readExact_of_short _ _ _ _ (by rw [List.length_drop]; omega), if_pos cutOff]
          exact ⟨"reading response body", rfl⟩
        · rw [run_readExact_of_enough _ _ _ _ (by rw [List.length_drop]; omega), if_neg cutOff]
          have whole : headerSize + (Bytes.lengthField inflow.bytes - headerSize) =
              Bytes.lengthField inflow.bytes := by omega
          refine ⟨"", ?_⟩
          dsimp only
          rw [Action.run_pure, List.drop_drop, whole, ← List.take_add, whole]
          rfl

theorem gather_cons (limit : Nat) (atEnd : Fault) (gathered read : Bytes) (reads : List Bytes) :
    gather limit atEnd gathered (read :: reads) =
      match Verdict.of limit (gathered ++ read) with
      | .short => gather limit atEnd (gathered ++ read) reads
      | .refused cause => (.error (.malformed cause), reads)
      | .frame length => (.ok ((gathered ++ read).take length), reads) := by
  rw [gather]
  unfold Verdict.of
  by_cases headless : (gathered ++ read).length < headerSize
  · rw [if_pos headless, if_pos headless]
  · rw [if_neg headless, if_neg headless, declaredLength_eq]
    by_cases small : Bytes.lengthField (gathered ++ read) < headerSize
    · rw [if_pos small, if_pos small]
    · rw [if_neg small, if_neg small]
      by_cases large : limit < Bytes.lengthField (gathered ++ read)
      · rw [if_pos large, if_pos large]
      · rw [if_neg large, if_neg large]
        by_cases cutOff : (gathered ++ read).length < Bytes.lengthField (gathered ++ read)
        · rw [if_pos cutOff]
          dsimp only
          rw [if_pos cutOff]
        · rw [if_neg cutOff]
          dsimp only
          rw [if_neg cutOff]

/-- Bytes that come to nothing yet, and the reads that follow them, yield what all of them come to
together. -/
theorem gather_eq (limit : Nat) (atEnd : Fault) (gathered : Bytes) (reads : List Bytes)
    (undecided : Verdict.of limit gathered = .short) :
    (gather limit atEnd gathered reads).1 =
      (Verdict.of limit (gathered ++ reads.flatten)).outcome atEnd
        (gathered ++ reads.flatten) := by
  induction reads generalizing gathered with
  | nil =>
    rw [List.flatten_nil, List.append_nil, undecided]
    rfl
  | cons read reads inductionHypothesis =>
    rw [gather_cons, List.flatten_cons, ← List.append_assoc]
    by_cases still : Verdict.of limit (gathered ++ read) = .short
    · rw [still]
      exact inductionHypothesis _ still
    · rw [Verdict.of_append _ _ _ still, Verdict.outcome_append _ _ _ _ still]
      cases found : Verdict.of limit (gathered ++ read) with
      | short => exact absurd found still
      | refused cause => rfl
      | frame length => rfl

def gatherReads (limit : Nat) (reads : List Bytes) : Except Fault Bytes :=
  (gather limit (.transport "reading response" "device closed mid-response") [] reads).1

theorem flatten_reads (inflow : Inflow) : inflow.reads.flatten = inflow.bytes := by
  unfold reads
  rw [Bytes.flatten_pieces, List.take_of_length_le]
  unfold largestRead
  omega

/-- Two outcomes of reading a frame where the bytes come to an end, with what each of them has to
be: the same frame, the same refusal of the length declared, or a failure to read on. -/
structure ReadAlike (limit : Nat) (bytes : Bytes) (stream device : Except Fault Bytes) : Prop where
  same : ∀ frame, stream = .ok frame ↔ device = .ok frame
  ok_iff : ∀ frame, stream = .ok frame ↔
    headerSize ≤ bytes.length ∧ headerSize ≤ bytes.lengthField ∧ bytes.lengthField ≤ limit ∧
      bytes.lengthField ≤ bytes.length ∧ frame = bytes.take bytes.lengthField
  small : headerSize ≤ bytes.length → bytes.lengthField < headerSize →
    stream = .error (.malformed (.frameSmallerThanHeader bytes.lengthField)) ∧ device = stream
  large : headerSize ≤ bytes.length → headerSize ≤ bytes.lengthField → limit < bytes.lengthField →
    stream = .error (.malformed (.frameTooLarge bytes.lengthField limit)) ∧ device = stream
  cutOff : bytes.length < headerSize ∨
      (headerSize ≤ bytes.lengthField ∧ bytes.lengthField ≤ limit ∧
        bytes.length < bytes.lengthField) →
    (∃ activity cause, stream = .error (.transport activity cause)) ∧
      ∃ activity cause, device = .error (.transport activity cause)

theorem readAlike_of_outcome (limit : Nat) (bytes : Bytes)
    (activity cause otherActivity otherCause : String) :
    ReadAlike limit bytes
      ((Verdict.of limit bytes).outcome (.transport activity cause) bytes)
      ((Verdict.of limit bytes).outcome (.transport otherActivity otherCause) bytes) := by
  have ok_iff (atEnd : Fault) (frame : Bytes) :
      (Verdict.of limit bytes).outcome atEnd bytes = .ok frame ↔
        headerSize ≤ bytes.length ∧ headerSize ≤ bytes.lengthField ∧ bytes.lengthField ≤ limit ∧
          bytes.lengthField ≤ bytes.length ∧ frame = bytes.take bytes.lengthField := by
    constructor
    · intro success
      cases found : Verdict.of limit bytes with
      | short =>
        rw [found] at success
        cases success
      | refused cause =>
        rw [found] at success
        cases success
      | frame length =>
        rw [found] at success
        obtain ⟨rfl, whole, within, there⟩ := (Verdict.of_eq_frame_iff _ _ _).mp found
        cases success
        exact ⟨Nat.le_trans whole there, whole, within, there, rfl⟩
    · rintro ⟨_, whole, within, there, rfl⟩
      rw [(Verdict.of_eq_frame_iff _ _ _).mpr ⟨rfl, whole, within, there⟩]
      rfl
  refine ⟨fun frame => (ok_iff _ frame).trans (ok_iff _ frame).symm, ok_iff _, ?_, ?_, ?_⟩
  · intro long small
    have found : Verdict.of limit bytes = .refused (.frameSmallerThanHeader bytes.lengthField) := by
      rw [Verdict.of, if_neg (Nat.not_lt.mpr long), if_pos small]
    rw [found]
    exact ⟨rfl, rfl⟩
  · intro long whole large
    have found : Verdict.of limit bytes = .refused (.frameTooLarge bytes.lengthField limit) := by
      rw [Verdict.of, if_neg (Nat.not_lt.mpr long), if_neg (Nat.not_lt.mpr whole), if_pos large]
    rw [found]
    exact ⟨rfl, rfl⟩
  · intro cutOff
    have found : Verdict.of limit bytes = .short := by
      rcases cutOff with short | ⟨whole, within, short⟩
      · exact if_pos short
      · unfold Verdict.of
        rw [if_neg (Nat.not_lt.mpr whole), if_neg (Nat.not_lt.mpr within), if_pos short, ite_self]
    rw [found]
    exact ⟨⟨_, _, rfl⟩, _, _, rfl⟩

/-- A frame that has the length it declares, and may have it. -/
structure Framed (limit : Nat) (frame : Bytes) : Prop where
  whole : headerSize ≤ frame.length
  within : frame.length ≤ limit
  declared : frame.lengthField = frame.length

theorem run_readFrame_eq_ok_iff (limit : Nat) (patience : Duration) (inflow after : Inflow)
    (frame : Bytes) :
    (readFrame limit patience).run inflow = (.ok frame, after) ↔
      Framed limit frame ∧ inflow = ⟨frame ++ after.bytes, after.closed⟩ := by
  obtain ⟨bytes, closed⟩ := inflow
  obtain ⟨activity, ran⟩ := run_readFrame limit patience ⟨bytes, closed⟩
  rw [ran]
  constructor
  · intro success
    cases found : Verdict.of limit bytes with
    | short =>
      rw [found] at success
      cases success
    | refused cause =>
      rw [found] at success
      cases success
    | frame length =>
      rw [found] at success
      cases success
      obtain ⟨declared, whole, within, there⟩ := (Verdict.of_eq_frame_iff _ _ _).mp found
      have taken : (bytes.take length).length = length := by
        rw [List.length_take]
        omega
      have same := Bytes.lengthField_append (bytes.take length) (bytes.drop length)
        (taken.symm ▸ whole)
      rw [List.take_append_drop, ← declared] at same
      refine ⟨⟨taken.symm ▸ whole, taken.symm ▸ within, same.symm.trans taken.symm⟩, ?_⟩
      rw [List.take_append_drop]
  · rintro ⟨framed, same⟩
    obtain ⟨rfl, rfl⟩ := Inflow.mk.inj same
    have found : Verdict.of limit (frame ++ after.bytes) = .frame frame.length := by
      have alone : Verdict.of limit frame = .frame frame.length :=
        (Verdict.of_eq_frame_iff _ _ _).mpr
          ⟨framed.declared.symm, framed.whole, framed.within, Nat.le_refl _⟩
      rw [Verdict.of_append limit frame after.bytes (by rw [alone]; nofun), alone]
    dsimp only
    rw [found]
    dsimp only [Verdict.outcome]
    rw [List.take_left, List.drop_left]

def readFrames (limit : Nat) (patience : Duration) : Nat → Action Fault Inflow (List Bytes)
  | 0 => return []
  | count + 1 => do
    let frame ← readFrame limit patience
    let others ← readFrames limit patience count
    return frame :: others

theorem run_readFrames (limit : Nat) (patience : Duration) (frames : List Bytes) (after : Inflow)
    (framed : ∀ frame ∈ frames, Framed limit frame) :
    (readFrames limit patience frames.length).run ⟨frames.flatten ++ after.bytes, after.closed⟩ =
      (.ok frames, after) := by
  induction frames with
  | nil => rfl
  | cons frame frames inductionHypothesis =>
    have first := (run_readFrame_eq_ok_iff limit patience
      ⟨(frame :: frames).flatten ++ after.bytes, after.closed⟩
      ⟨frames.flatten ++ after.bytes, after.closed⟩ frame).mpr
        ⟨framed frame List.mem_cons_self, by rw [List.flatten_cons, List.append_assoc]⟩
    rw [List.length_cons, readFrames, Action.run_bind_of_ok _ _ _ _ _ first,
      Action.run_bind_of_ok _ _ _ _ _
        (inductionHypothesis fun other among => framed other (List.mem_cons_of_mem _ among))]
    rfl

end Inflow

namespace Response

theorem tagOf_eq_error (code : UInt16) (fault : Fault) (failed : tagOf code = .error fault) :
    fault = .malformed (.responseTag code) ∧
      ∀ tag : Tag, tag.code = code → tag.responseTrailers? = none := by
  constructor
  · unfold tagOf at failed
    split at failed
    · cases failed
    · cases failed
      rfl
  · intro tag named
    cases known : tag.responseTrailers? with
    | none => rfl
    | some count =>
      rw [(tagOf_eq_ok_iff code tag).mpr ⟨named.symm, by rw [known]; rfl⟩] at failed
      cases failed

/-- Bytes with a tag of a response, and with the length that they declare, are one. -/
theorem parse_of_declared (frame : Bytes) (whole : headerSize ≤ frame.length)
    (declared : frame.lengthField = frame.length) (code : UInt16) (tag : Tag)
    (tagged : frame.take 2 = Bytes.word16 code) (known : tagOf code = .ok tag) :
    ∃ response, parse frame = .ok response := by
  have long : 10 ≤ frame.length := whole
  obtain ⟨rfl, isResponse⟩ := (tagOf_eq_ok_iff code tag).mp known
  have sizeLength : ((frame.drop 2).take 4).length = 4 := by
    rw [List.length_take, List.length_drop]
    omega
  have codeLength : ((frame.drop 6).take 4).length = 4 := by
    rw [List.length_take, List.length_drop]
    omega
  have size : Bytes.bigEndian 4 frame.length = (frame.drop 2).take 4 := by
    have written := Bytes.bigEndian_ofBigEndian ((frame.drop 2).take 4)
    rw [sizeLength] at written
    rw [← declared]
    exact written
  have fits : frame.length < Bytes.capacity 4 := by
    have bound := Bytes.ofBigEndian_lt ((frame.drop 2).take 4)
    rw [sizeLength] at bound
    rw [← declared]
    exact bound
  refine ⟨⟨tag, .ofNat (Bytes.ofBigEndian ((frame.drop 6).take 4)), frame.drop 10⟩,
    (parse_eq_ok_iff _ _).mpr ⟨isResponse, fits, ?_⟩⟩
  have total : headerSize + (frame.drop 10).length = frame.length := by
    rw [List.length_drop, headerSize]
    omega
  rw [Response.frame]
  dsimp only
  rw [total, size, ← (Bytes.ofNat_ofBigEndian_eq_iff_word32 _ _ codeLength).mp rfl, ← tagged,
    ← List.drop_drop (i := 4) (j := 6), List.append_assoc, List.take_append_drop,
    ← List.drop_drop (i := 4) (j := 2), List.append_assoc, List.take_append_drop,
    List.take_append_drop]

/-- What has the length that it declares is refused as a response for its tag only. -/
theorem parse_eq_error_of_declared (frame : Bytes) (whole : headerSize ≤ frame.length)
    (declared : frame.lengthField = frame.length) (fault : Fault)
    (failed : parse frame = .error fault) :
    ∃ code, frame.take 2 = Bytes.word16 code ∧
      (∀ tag : Tag, tag.code = code → tag.responseTrailers? = none) ∧
      fault = .malformed (.responseTag code) := by
  have tagLength : (frame.take 2).length = 2 := by
    have long : 10 ≤ frame.length := whole
    rw [List.length_take]
    omega
  have tagged := (Bytes.ofNat_ofBigEndian_eq_iff_word16 _ _ tagLength).mp rfl
  generalize UInt16.ofNat (Bytes.ofBigEndian (frame.take 2)) = code at tagged
  cases known : tagOf code with
  | ok tag =>
    obtain ⟨response, parsed⟩ := parse_of_declared frame whole declared code tag tagged known
    rw [parsed] at failed
    cases failed
  | error other =>
    obtain ⟨rfl, foreign⟩ := tagOf_eq_error code other known
    have read : Decoder.word16.run (Reader.ofBytes frame) = (.ok code, ⟨2, frame.drop 2⟩) := by
      refine (Decoder.run_word16_eq_ok_iff _ _ _).mpr ⟨?_, rfl⟩
      rw [← tagged]
      exact (List.take_append_drop 2 frame).symm
    rw [parse, if_neg (Nat.not_lt.mpr whole), decode, Action.run_bind_of_ok _ _ _ _ _ read,
      Action.run_bind, Action.run_ofExcept, known] at failed
    cases failed
    exact ⟨code, tagged, foreign, rfl⟩

end Response

namespace Inflow

/-- A stream and a device that bring the same bytes to their end are read alike, however the device
cuts them.  From a stream exactly the frame is taken, so that frames sent back to back are read one
by one, and what is taken is refused as a response for its tag only. -/
theorem readersAgree (limit : Nat) (patience : Duration) :
    (∀ reads : List Bytes,
      ReadAlike limit reads.flatten ((readFrame limit patience).run ⟨reads.flatten, true⟩).1
        (gatherReads limit reads)) ∧
    (∀ bytes,
      ReadAlike limit bytes ((readFrame limit patience).run ⟨bytes, true⟩).1
        ((gatherFrame limit patience).run ⟨bytes, true⟩).1) ∧
    (∀ inflow frame after, (readFrame limit patience).run inflow = (.ok frame, after) →
      Framed limit frame ∧ inflow = ⟨frame ++ after.bytes, after.closed⟩ ∧
        ∀ fault, Response.parse frame = .error fault →
          ∃ code, frame.take 2 = Bytes.word16 code ∧
            (∀ tag : Tag, tag.code = code → tag.responseTrailers? = none) ∧
            fault = .malformed (.responseTag code)) ∧
    ∀ (frames : List Bytes) (after : Inflow), (∀ frame ∈ frames, Framed limit frame) →
      (readFrames limit patience frames.length).run
          ⟨frames.flatten ++ after.bytes, after.closed⟩ = (.ok frames, after) := by
  have alike (reads : List Bytes) :
      ReadAlike limit reads.flatten ((readFrame limit patience).run ⟨reads.flatten, true⟩).1
        (gatherReads limit reads) := by
    obtain ⟨activity, ran⟩ := run_readFrame limit patience ⟨reads.flatten, true⟩
    have gathered := gather_eq limit (.transport "reading response" "device closed mid-response")
      [] reads rfl
    rw [ran, gatherReads, gathered, List.nil_append]
    exact readAlike_of_outcome limit reads.flatten activity _ _ _
  refine ⟨alike, fun bytes => ?_, fun inflow frame after ran => ?_,
    fun frames after framed => run_readFrames limit patience frames after framed⟩
  · have own := alike (reads ⟨bytes, true⟩)
    rwa [flatten_reads] at own
  · obtain ⟨framed, split⟩ := (run_readFrame_eq_ok_iff limit patience inflow after frame).mp ran
    exact ⟨framed, split,
      Response.parse_eq_error_of_declared frame framed.whole framed.declared⟩

/-- A header that is cut twice, and a read that brings more than the frame. -/
theorem readersAgree_of_cut_header :
    let reads : List Bytes := [[0, 0xc4, 0, 0], [0, 11, 0], [0, 0, 0, 5, 6]]
    let frame : Bytes := [0, 0xc4, 0, 0, 0, 11, 0, 0, 0, 0, 5]
    gatherReads 4096 reads = .ok frame ∧
      ((readFrame 4096 (.ofSeconds 1)).run ⟨reads.flatten, true⟩).1 = .ok frame := by
  intro reads frame
  have alike := (readersAgree 4096 (.ofSeconds 1)).1 reads
  have read := (alike.ok_iff frame).mpr (by decide)
  exact ⟨(alike.same frame).mp read, read⟩

end Inflow

end TrustedPlatform
