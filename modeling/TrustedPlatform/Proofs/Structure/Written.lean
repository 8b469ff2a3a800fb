import TrustedPlatform.Proofs.Structure.Faults
import TrustedPlatform.Proofs.Wire.Grammar
import TrustedPlatform.Structure.AuditPage
import TrustedPlatform.Structure.CounterValue
import TrustedPlatform.Structure.HandleList
import TrustedPlatform.Structure.RegisterSelection
import TrustedPlatform.Structure.SavedContext
import TrustedPlatform.Structure.Trailer

/-!
# How structures are written

Every structure has one written form, whatever the sizes of its parts (`written`).  A structure is
sent in that form unless one of its parts exceeds its limit (`sends`), and it is read wherever that
form stands, if its parts are legible and its algorithm says how its parameters are to be read
(`reads`).
-/

set_option autoImplicit false

namespace TrustedPlatform

inductive Part where
  | keyLength (bits : UInt32)
  | modulus (size : Nat)
  | selection (size : Nat)
  | handles (count : Nat)
  | keyVersion (version : StructVersion)
  -- Bytes that follow their length, which takes four bytes.
  | blob (size : Nat)
  deriving DecidableEq, Repr

namespace Part

/-- The part is more than may be sent. -/
def Exceeds : Part → Prop
  | .keyLength bits => 2048 < bits.toNat
  | .modulus size => 256 < size
  | .selection size => 4 < size
  | .handles count => 65535 < count
  | .keyVersion version => ¬ (version.major = 1 ∧ version.minor = 1)
  | .blob size => 0x100000000 ≤ size

/-- The part can be read where it is written: its length can be told, and its version is known. -/
def Legible : Part → Prop
  | .keyLength _ => True
  | .modulus _ => True
  | .selection size => size ≤ 65535
  | .handles count => count ≤ 65535
  | .keyVersion version => version.major = 1 ∧ version.minor = 1
  | .blob size => size < 0x100000000

/-- The limit of the part is looked at when it is sent, and not when it is read. -/
def SentOnly : Part → Prop
  | .keyLength _ | .modulus _ | .selection _ => True
  | .handles _ | .keyVersion _ | .blob _ => False

instance (part : Part) : Decidable part.Exceeds := by
  cases part <;> unfold Exceeds <;> infer_instance

theorem Legible.of_not_exceeds {part : Part} (fits : ¬ part.Exceeds) : part.Legible := by
  cases part with
  | keyLength bits => trivial
  | modulus size => trivial
  | selection size =>
    have small : size ≤ 4 := Nat.not_lt.mp fits
    exact Nat.le_trans small (by decide)
  | handles count => exact Nat.not_lt.mp fits
  | keyVersion version => exact Classical.not_not.mp fits
  | blob size => exact Nat.not_le.mp fits

/-- A limit that what was read breaks is one that only sending looks at. -/
theorem Legible.sentOnly {part : Part} (legible : part.Legible) (exceeds : part.Exceeds) :
    part.SentOnly := by
  cases part with
  | keyLength bits => trivial
  | modulus size => trivial
  | selection size => trivial
  | handles count => exact Nat.not_lt.mpr legible exceeds
  | keyVersion version => exact exceeds legible
  | blob size => exact Nat.not_le.mpr legible exceeds

end Part

/-- What comes of writing: the written form if no part exceeds its limit, and otherwise a fault that
says so. -/
structure Sends (outcome : Except Fault Bytes) (parts : List Part) (written : Bytes) : Prop where
  ok : (∀ part ∈ parts, ¬ part.Exceeds) → outcome = .ok written
  error : (∃ part ∈ parts, part.Exceeds) → ∃ cause, outcome = .error (.encoding cause)

namespace Sends

variable {outcome : Except Fault Bytes} {parts : List Part} {written : Bytes}

theorem ok_iff (sends : Sends outcome parts written) (bytes : Bytes) :
    outcome = .ok bytes ↔ (∀ part ∈ parts, ¬ part.Exceeds) ∧ bytes = written := by
  constructor
  · intro success
    have fits : ∀ part ∈ parts, ¬ part.Exceeds := by
      intro part among exceeds
      obtain ⟨_, failed⟩ := sends.error ⟨part, among, exceeds⟩
      rw [success] at failed
      cases failed
    rw [sends.ok fits] at success
    cases success
    exact ⟨fits, rfl⟩
  · rintro ⟨fits, rfl⟩
    exact sends.ok fits

theorem error_iff (sends : Sends outcome parts written) :
    (∃ cause, outcome = .error (.encoding cause)) ↔ ∃ part ∈ parts, part.Exceeds := by
  constructor
  · rintro ⟨cause, failed⟩
    apply Classical.byContradiction
    intro none
    have fits : ∀ part ∈ parts, ¬ part.Exceeds := fun part among exceeds =>
      none ⟨part, among, exceeds⟩
    rw [sends.ok fits] at failed
    cases failed
  · exact sends.error

theorem only (sends : Sends outcome parts written) : Fault.Only Fault.IsEncoding outcome := by
  intro fault failed
  by_cases exceeds : ∃ part ∈ parts, part.Exceeds
  · obtain ⟨cause, same⟩ := sends.error exceeds
    rw [failed] at same
    cases same
    exact ⟨cause, rfl⟩
  · have fits : ∀ part ∈ parts, ¬ part.Exceeds := fun part among beyond =>
      exceeds ⟨part, among, beyond⟩
    rw [sends.ok fits] at failed
    cases failed

theorem pure (bytes : Bytes) : Sends (Pure.pure bytes) [] bytes :=
  ⟨fun _ => rfl, fun ⟨_, among, _⟩ => nomatch among⟩

theorem bind {next : Bytes → Except Fault Bytes} {others : List Part} {whole : Bytes}
    (first : Sends outcome parts written) (rest : Sends (next written) others whole) :
    Sends (outcome >>= next) (parts ++ others) whole := by
  constructor
  · intro fits
    rw [first.ok fun part among => fits part (List.mem_append_left _ among)]
    exact rest.ok fun part among => fits part (List.mem_append_right _ among)
  · rintro ⟨part, among, exceeds⟩
    by_cases early : ∃ part ∈ parts, part.Exceeds
    · obtain ⟨cause, failed⟩ := first.error early
      rw [failed]
      exact ⟨cause, rfl⟩
    · rw [first.ok fun part among beyond => early ⟨part, among, beyond⟩]
      cases List.mem_append.mp among with
      | inl earlier => exact absurd ⟨part, earlier, exceeds⟩ early
      | inr later => exact rest.error ⟨part, later, exceeds⟩

theorem limit (part : Part) {refuses : Prop} [Decidable refuses] (same : refuses ↔ part.Exceeds)
    (cause : EncodingCause) (sends : Sends outcome parts written) :
    Sends (if refuses then .error (.encoding cause) else outcome) (part :: parts) written := by
  constructor
  · intro fits
    rw [if_neg fun refused => fits part List.mem_cons_self (same.mp refused)]
    exact sends.ok fun other among => fits other (List.mem_cons_of_mem _ among)
  · rintro ⟨other, among, exceeds⟩
    by_cases refused : refuses
    · rw [if_pos refused]
      exact ⟨cause, rfl⟩
    · rw [if_neg refused]
      cases List.mem_cons.mp among with
      | inl first => exact absurd (same.mpr (first ▸ exceeds)) refused
      | inr later => exact sends.error ⟨other, later, exceeds⟩

theorem blob (bytes : Bytes) : Sends (Bytes.sized bytes) [.blob bytes.length] bytes.withLength := by
  constructor
  · intro fits
    have short : ¬ 0x100000000 ≤ bytes.length := fits _ List.mem_cons_self
    exact (Bytes.sized_eq_ok_iff _ _).mpr ⟨Nat.not_le.mp short, rfl⟩
  · rintro ⟨part, among, exceeds⟩
    obtain rfl := List.mem_singleton.mp among
    exact ⟨_, if_neg (Nat.not_lt.mpr exceeds)⟩

end Sends

open Decoder

theorem Decoder.Reads.blob : Decoder.sized.Reads fun bytes written =>
    (Part.blob bytes.length).Legible ∧ written = bytes.withLength :=
  sized

namespace StructVersion

theorem reads : decode.Reads fun version bytes => bytes = version.encode := by
  refine (Reads.bind (.block 4) fun fields => .pure _).congr ?_
  rintro ⟨major, minor, revisionMajor, revisionMinor⟩ bytes
  constructor
  · rintro ⟨⟨_, exact⟩, fields, _, rfl, ⟨same, rfl⟩, rfl⟩
    match fields, exact with
    | [first, second, third, fourth], _ =>
      cases same
      rfl
  · rintro rfl
    exact ⟨⟨[major, minor, revisionMajor, revisionMinor], rfl⟩, _, _, rfl, ⟨rfl, rfl⟩,
      (List.append_nil _).symm⟩

end StructVersion

namespace RsaParameters

def written (parameters : RsaParameters) : Bytes :=
  Bytes.word32 parameters.bits ++ Bytes.word32 parameters.primes ++ parameters.exponent.withLength

def parts (parameters : RsaParameters) : List Part :=
  [.keyLength parameters.bits, .blob parameters.exponent.length]

theorem sends (parameters : RsaParameters) :
    Sends parameters.encode parameters.parts parameters.written := by
  unfold encode
  exact .limit (.keyLength parameters.bits) Iff.rfl _ (.bind (.blob _) (.pure _))

theorem reads : decode.Reads fun parameters bytes =>
    (∀ part ∈ parameters.parts, part.Legible) ∧ bytes = parameters.written := by
  refine (Reads.bind .word32 fun _ => .bind .word32 fun _ => .bind .blob fun _ => .pure _).congr ?_
  rintro ⟨bits, primes, exponent⟩ bytes
  simp [parts, written, Part.Legible]

end RsaParameters

namespace AlgorithmParameters

def written : AlgorithmParameters → Bytes
  | .rsa parameters => parameters.written
  | .raw bytes => bytes

def parts : AlgorithmParameters → List Part
  | .rsa parameters => parameters.parts
  | .raw _ => []

def BelongTo (algorithm : UInt32) : AlgorithmParameters → Prop
  | .rsa _ => algorithm = rsaAlgorithm
  | .raw _ => algorithm ≠ rsaAlgorithm

instance (algorithm : UInt32) (details : AlgorithmParameters) :
    Decidable (details.BelongTo algorithm) := by
  cases details <;> unfold BelongTo <;> infer_instance

theorem sends (details : AlgorithmParameters) :
    Sends details.encode details.parts details.written := by
  cases details with
  | rsa parameters => exact parameters.sends
  | raw bytes => exact .pure bytes

theorem ofBlob_eq_ok_iff (algorithm : UInt32) (blob : Bytes) (details : AlgorithmParameters) :
    ofBlob algorithm blob = .ok details ↔ details.BelongTo algorithm ∧
      (∀ part ∈ details.parts, part.Legible) ∧ blob = details.written := by
  unfold ofBlob
  by_cases isRsa : algorithm = rsaAlgorithm
  · rw [if_pos isRsa]
    cases details with
    | rsa parameters =>
      have whole := RsaParameters.reads.complete_iff blob parameters
      cases read : RsaParameters.decode.complete blob with
      | error fault =>
        rw [read] at whole
        simpa [BelongTo, isRsa, Except.map, parts, written] using whole
      | ok other =>
        rw [read] at whole
        simpa [BelongTo, isRsa, Except.map, parts, written] using whole
    | raw bytes =>
      cases RsaParameters.decode.complete blob with
      | error fault => simp [BelongTo, isRsa, Except.map]
      | ok other => simp [BelongTo, isRsa, Except.map]
  · rw [if_neg isRsa]
    cases details with
    | rsa parameters => simp [BelongTo, isRsa]
    | raw bytes => simp [BelongTo, isRsa, parts, written]

end AlgorithmParameters

namespace KeyParameters

def written (parameters : KeyParameters) : Bytes :=
  Bytes.word32 parameters.algorithm ++ Bytes.word16 parameters.encryptionScheme ++
    Bytes.word16 parameters.signatureScheme ++ parameters.details.written.withLength

def parts (parameters : KeyParameters) : List Part :=
  parameters.details.parts ++ [.blob parameters.details.written.length]

/-- The parameters are of the algorithm that is named with them. -/
def IsConsistent (parameters : KeyParameters) : Prop :=
  parameters.details.BelongTo parameters.algorithm

instance (parameters : KeyParameters) : Decidable parameters.IsConsistent := by
  unfold IsConsistent
  infer_instance

theorem sends (parameters : KeyParameters) :
    Sends parameters.encode parameters.parts parameters.written :=
  .bind parameters.details.sends (.bind (.blob _) (.pure _))

theorem reads : decode.Reads fun parameters bytes => parameters.IsConsistent ∧
    (∀ part ∈ parameters.parts, part.Legible) ∧ bytes = parameters.written := by
  refine (Reads.bind .word32 fun _ => .bind .word16 fun _ => .bind .word16 fun _ =>
    .bind .blob fun _ => .bind (.ofExcept _) fun _ => .pure _).congr ?_
  rintro ⟨algorithm, encryptionScheme, signatureScheme, details⟩ bytes
  simp [parts, written, IsConsistent, AlgorithmParameters.ofBlob_eq_ok_iff,
    or_imp, forall_and, and_assoc, and_left_comm]

end KeyParameters

namespace PublicModulus

def written (modulus : PublicModulus) : Bytes := modulus.bytes.withLength

def parts (modulus : PublicModulus) : List Part :=
  [.modulus modulus.bytes.length, .blob modulus.bytes.length]

theorem sends (modulus : PublicModulus) : Sends modulus.encode modulus.parts modulus.written := by
  unfold encode
  exact .limit (.modulus modulus.bytes.length) Iff.rfl _ (.blob _)

theorem reads : decode.Reads fun modulus bytes =>
    (∀ part ∈ modulus.parts, part.Legible) ∧ bytes = modulus.written := by
  refine (Reads.bind .blob fun _ => .pure _).congr ?_
  rintro ⟨value⟩ bytes
  simp [parts, written, Part.Legible]

end PublicModulus

namespace PublicKey

def written (key : PublicKey) : Bytes := key.parameters.written ++ key.modulus.written

def parts (key : PublicKey) : List Part := key.parameters.parts ++ key.modulus.parts

theorem sends (key : PublicKey) : Sends key.encode key.parts key.written :=
  .bind key.parameters.sends (.bind key.modulus.sends (.pure _))

theorem reads : decode.Reads fun key bytes => key.parameters.IsConsistent ∧
    (∀ part ∈ key.parts, part.Legible) ∧ bytes = key.written := by
  refine (Reads.bind KeyParameters.reads fun _ => .bind PublicModulus.reads fun _ =>
    .pure _).congr ?_
  rintro ⟨parameters, modulus⟩ bytes
  simp [parts, written, or_imp, forall_and, and_assoc]

end PublicKey

namespace KeyFormat

def written : KeyFormat → Bytes
  | .older version => version.encode
  | .newer => Bytes.word16 newerKeyTag ++ Bytes.word16 0

def parts : KeyFormat → List Part
  | .older version => [.keyVersion version]
  | .newer => []

theorem sends (format : KeyFormat) : Sends format.encode format.parts format.written := by
  cases format with
  | newer => exact .pure _
  | older version =>
    unfold encode
    have current : version.isCurrent = true ↔ ¬ (Part.keyVersion version).Exceeds := by
      simp [StructVersion.isCurrent, Part.Exceeds]
    constructor
    · intro fits
      exact if_pos (current.mpr (fits _ List.mem_cons_self))
    · rintro ⟨part, among, exceeds⟩
      obtain rfl := List.mem_singleton.mp among
      exact ⟨_, if_neg fun isCurrent => current.mp isCurrent exceeds⟩

/-- What is written where the first two bytes are known. -/
def BeginsWith (head : Bytes) : KeyFormat → Bytes → Prop
  | .older version, bytes => UInt16.ofNat (Bytes.ofBigEndian head) ≠ newerKeyTag ∧
    (version.major = 1 ∧ version.minor = 1) ∧ bytes = version.encode
  | .newer, bytes => UInt16.ofNat (Bytes.ofBigEndian head) = newerKeyTag ∧
    ∃ skipped : Bytes, skipped.length = 2 ∧ bytes = skipped ++ Bytes.word16 0

theorem length_of_beginsWith {head bytes : Bytes} {format : KeyFormat}
    (begins : format.BeginsWith head bytes) : bytes.length = 4 := by
  cases format with
  | older version =>
    obtain ⟨_, _, rfl⟩ := begins
    rfl
  | newer =>
    obtain ⟨_, skipped, exact, rfl⟩ := begins
    rw [List.length_append, exact, Bytes.length_word16]

theorem beginsWith_take_iff (format : KeyFormat) (bytes : Bytes) :
    format.BeginsWith (bytes.take 2) bytes ↔
      (∀ part ∈ format.parts, part.Legible) ∧ bytes = format.written := by
  cases format with
  | older version =>
    obtain ⟨major, minor, revisionMajor, revisionMinor⟩ := version
    simp only [BeginsWith, parts, written, List.forall_mem_singleton, Part.Legible]
    constructor
    · rintro ⟨_, current, whole⟩
      exact ⟨current, whole⟩
    · rintro ⟨⟨rfl, rfl⟩, rfl⟩
      have untagged : UInt16.ofNat (Bytes.ofBigEndian [1, 1]) ≠ newerKeyTag := by decide
      exact ⟨untagged, ⟨rfl, rfl⟩, rfl⟩
  | newer =>
    simp only [BeginsWith, parts, written, List.not_mem_nil, false_implies, implies_true, true_and]
    constructor
    · rintro ⟨tagged, skipped, exact, rfl⟩
      rw [List.take_left' exact, Bytes.ofNat_ofBigEndian_eq_iff_word16 _ _ exact] at tagged
      rw [tagged]
    · rintro rfl
      exact ⟨by decide, _, Bytes.length_word16 newerKeyTag, rfl⟩

theorem reads : decode.Reads fun format bytes =>
    (∀ part ∈ format.parts, part.Legible) ∧ bytes = format.written := by
  refine (Reads.peek 2 (fun head format => format.BeginsWith head) ?_ ?_).congr
    beginsWith_take_iff
  · intro head
    by_cases tagged : UInt16.ofNat (Bytes.ofBigEndian head) = newerKeyTag
    · rw [if_pos tagged]
      refine (Reads.bind (.bind (.take _ 2) fun _ => .pure _) fun _ => .bind .word16 fun fill =>
        .guard _ (.pure _)).congr ?_
      intro format bytes
      cases format with
      | older version => simp [BeginsWith, tagged]
      | newer => simp [BeginsWith, tagged]
    · rw [if_neg tagged]
      refine (Reads.bind StructVersion.reads fun version => .guard _ (.pure _)).congr ?_
      intro format bytes
      cases format with
      | older version => simp [BeginsWith, tagged, StructVersion.isCurrent]
      | newer => simp [BeginsWith, tagged]
  · intro head format bytes begins
    rw [length_of_beginsWith begins]
    decide

end KeyFormat

namespace KeyBlob

def written (key : KeyBlob) : Bytes :=
  key.format.written ++ Bytes.word16 key.usage ++ Bytes.word32 key.flags ++ [key.authDataUsage] ++
    key.parameters.written ++ key.registerInfo.withLength ++ key.modulus.written ++
    key.wrapped.withLength

def parts (key : KeyBlob) : List Part :=
  key.format.parts ++ (key.parameters.parts ++ (.blob key.registerInfo.length ::
    (key.modulus.parts ++ [.blob key.wrapped.length])))

theorem sends (key : KeyBlob) : Sends key.encode key.parts key.written :=
  .bind key.format.sends (.bind key.parameters.sends (.bind (.blob _) (.bind key.modulus.sends
    (.bind (.blob _) (.pure _)))))

theorem reads : decode.Reads fun key bytes => key.parameters.IsConsistent ∧
    (∀ part ∈ key.parts, part.Legible) ∧ bytes = key.written := by
  refine (Reads.bind KeyFormat.reads fun _ => .bind .word16 fun _ => .bind .word32 fun _ =>
    .bind .byte fun _ => .bind KeyParameters.reads fun _ => .bind .blob fun _ =>
    .bind PublicModulus.reads fun _ => .bind .blob fun _ => .pure _).congr ?_
  rintro ⟨format, usage, flags, authDataUsage, parameters, registerInfo, modulus, wrapped⟩ bytes
  simp [parts, written, or_imp, forall_and, and_assoc, and_left_comm]

end KeyBlob

namespace RegisterSelection

def written (selection : RegisterSelection) : Bytes :=
  Bytes.bigEndian 2 selection.bitmap.length ++ selection.bitmap

def parts (selection : RegisterSelection) : List Part := [.selection selection.bitmap.length]

theorem sends (selection : RegisterSelection) :
    Sends selection.encode selection.parts selection.written := by
  unfold encode
  constructor
  · intro fits
    have narrow : ¬ widestSelection < selection.bitmap.length := fits _ List.mem_cons_self
    have short : selection.bitmap.length < Bytes.capacity 2 :=
      Nat.lt_of_le_of_lt (Nat.not_lt.mp narrow) (by decide)
    rw [if_neg narrow]
    exact (Bytes.sized16_eq_ok_iff _ _).mpr ⟨short, rfl⟩
  · rintro ⟨part, among, exceeds⟩
    obtain rfl := List.mem_singleton.mp among
    exact ⟨_, if_pos exceeds⟩

theorem reads : decode.Reads fun selection bytes =>
    (∀ part ∈ selection.parts, part.Legible) ∧ bytes = selection.written := by
  refine (Reads.bind .sized16 fun _ => .pure _).congr ?_
  rintro ⟨bitmap⟩ bytes
  simp [parts, written, Part.Legible, Bytes.capacity, Nat.lt_succ_iff]

end RegisterSelection

theorem CounterValue.reads : decode.Reads fun value bytes => bytes = value.encode := by
  refine (Reads.bind .word16 fun tag => .guard _ (.bind (.block 4) fun _ => .bind .word32 fun _ =>
    .pure _)).congr ?_
  rintro ⟨label, count⟩ bytes
  simp [encode]

namespace AuditPage

def written (page : AuditPage) : Bytes :=
  page.counter.encode ++ page.digest.bytes ++ Bytes.flag page.more ++
    Bytes.withLength (page.ordinals.flatMap Bytes.word32)

theorem wordsOf_flatMap_word32 (numbers : List UInt32) :
    wordsOf (numbers.flatMap Bytes.word32) = numbers := by
  have count : (numbers.flatMap Bytes.word32).length / 4 = numbers.length := by
    rw [Bytes.length_flatMap_word32]
    omega
  have cut := Bytes.pieces_flatMap Bytes.word32 4 Bytes.length_word32 numbers []
  rw [List.append_nil] at cut
  rw [wordsOf, count, cut, List.map_map]
  exact List.map_id'' Bytes.ofNat_ofBigEndian_word32 numbers

theorem reads : decode.Reads fun page bytes =>
    (Part.blob (page.ordinals.flatMap Bytes.word32).length).Legible ∧ bytes = page.written := by
  refine (Reads.bind CounterValue.reads fun _ => .bind (.block 20) fun _ => .bind .flag fun _ =>
    .bind .blob fun _ => .guard _ (.pure _)).congr ?_
  rintro ⟨counter, digest, more, ordinals⟩ bytes
  constructor
  · rintro ⟨_, _, _, rfl, ⟨_, _, _, rfl, ⟨_, _, _, rfl, ⟨list, _, _, ⟨legible, rfl⟩,
      ⟨even, same, rfl⟩, rfl⟩, rfl⟩, rfl⟩, rfl⟩
    have exact : list.length = 4 * (list.length / 4) := by omega
    obtain ⟨numbers, _, rfl⟩ := Bytes.eq_flatMap_word32_of_length _ list exact
    rw [wordsOf_flatMap_word32] at same
    cases same
    exact ⟨legible, by simp [written]⟩
  · rintro ⟨legible, rfl⟩
    refine ⟨counter, _, _, rfl, ⟨digest, _, _, rfl, ⟨more, _, _, rfl, ⟨_, _, _, ⟨legible, rfl⟩,
      ⟨?_, ?_, rfl⟩, rfl⟩, rfl⟩, rfl⟩, ?_⟩
    · rw [Bytes.length_flatMap_word32]
      omega
    · rw [wordsOf_flatMap_word32]
    · simp [written]

end AuditPage

namespace SavedContext

def written (saved : SavedContext) : Bytes :=
  Bytes.word16 contextTag ++ Bytes.word32 saved.resource ++ Bytes.word32 saved.handle ++
    saved.label.bytes ++ Bytes.word32 saved.count ++ saved.integrity.bytes ++
    saved.additional.withLength ++ saved.sensitive.withLength

def parts (saved : SavedContext) : List Part :=
  [.blob saved.additional.length, .blob saved.sensitive.length]

theorem sends (saved : SavedContext) : Sends saved.encode saved.parts saved.written :=
  .bind (.blob _) (.bind (.blob _) (.pure _))

theorem reads : decode.Reads fun saved bytes =>
    (∀ part ∈ saved.parts, part.Legible) ∧ bytes = saved.written := by
  refine (Reads.bind .word16 fun _ => .guard _ (.bind .word32 fun _ => .bind .word32 fun _ =>
    .bind (.block 16) fun _ => .bind .word32 fun _ => .bind (.block 20) fun _ =>
    .bind .blob fun _ => .bind .blob fun _ => .pure _)).congr ?_
  rintro ⟨resource, handle, label, count, integrity, additional, sensitive⟩ bytes
  simp [parts, written, and_assoc, and_left_comm]

end SavedContext

namespace HandleList

def written (list : HandleList) : Bytes :=
  Bytes.bigEndian 2 list.handles.length ++ list.handles.flatMap Bytes.word32

def parts (list : HandleList) : List Part := [.handles list.handles.length]

theorem sends (list : HandleList) : Sends list.encode list.parts list.written := by
  have limit : list.handles.length < Bytes.capacity 2 ↔
      ¬ (Part.handles list.handles.length).Exceeds := by
    simp [Part.Exceeds, Bytes.capacity, Nat.lt_succ_iff]
  unfold encode
  constructor
  · intro fits
    exact if_pos (limit.mpr (fits _ List.mem_cons_self))
  · rintro ⟨part, among, exceeds⟩
    obtain rfl := List.mem_singleton.mp among
    exact ⟨_, if_neg fun short => limit.mp short exceeds⟩

theorem reads : decode.Reads fun list bytes =>
    (∀ part ∈ list.parts, part.Legible) ∧ bytes = list.written := by
  refine (Reads.bind .word16 fun count => .enough _ _ (.bind (.words count.toNat) fun _ =>
    .pure _) ?_).congr ?_
  · rintro value bytes ⟨_, _, _, ⟨exact, rfl⟩, ⟨_, rfl⟩, rfl⟩
    rw [List.append_nil, Bytes.length_flatMap_word32, exact]
    omega
  · rintro ⟨handles⟩ bytes
    simp only [parts, written, List.forall_mem_singleton, Part.Legible]
    constructor
    · rintro ⟨count, _, _, rfl, ⟨_, _, _, ⟨exact, rfl⟩, ⟨same, rfl⟩, rfl⟩, rfl⟩
      cases same
      have bound := count.toNat_lt
      refine ⟨by omega, ?_⟩
      rw [exact, List.append_nil]
      rfl
    · rintro ⟨few, rfl⟩
      have fits : handles.length < Bytes.capacity 2 := Nat.lt_succ_of_le few
      have number : handles.length = (UInt16.ofNat handles.length).toNat :=
        (UInt16.toNat_ofNat_of_lt' fits).symm
      refine ⟨_, _, _, rfl, ⟨handles, _, _, ⟨number, rfl⟩, ⟨rfl, rfl⟩, rfl⟩, ?_⟩
      rw [Bytes.bigEndian_two_eq_word16 _ fits, List.append_nil]

end HandleList

theorem RequestTrailer.reads : decode.Reads fun trailer bytes => bytes = trailer.encode := by
  refine (Reads.bind .word32 fun _ => .bind (.block 20) fun _ => .bind .flag fun _ =>
    .bind (.block 20) fun _ => .pure _).congr ?_
  rintro ⟨handle, nonceOdd, continueSession, authorization⟩ bytes
  simp [encode, -Bool.exists_bool]

theorem ResponseTrailer.reads : decode.Reads fun trailer bytes => bytes = trailer.encode := by
  refine (Reads.bind (.block 20) fun _ => .bind .flag fun _ => .bind (.block 20) fun _ =>
    .pure _).congr ?_
  rintro ⟨nonceEven, continueSession, authorization⟩ bytes
  simp [encode, -Bool.exists_bool]

end TrustedPlatform
