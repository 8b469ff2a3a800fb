import TrustedPlatform.Proofs.Structure.Written

/-!
# Structures that are sent and read

There are twelve structures that go both ways.  A value of each comes back from its bytes unless the
parameters of a key are not those of the algorithm named with them (`Layout.complete_of_encode`),
and bytes that are read come back from their value unless one of the limits that only sending looks
at is exceeded (`Layout.encode_of_complete`).
-/

set_option autoImplicit false

namespace TrustedPlatform

/-- A structure that is both sent and read. -/
inductive Layout where
  | structVersion
  | rsaParameters
  | keyParameters
  | publicModulus
  | publicKey
  | keyBlob
  | registerSelection
  | counterValue
  | savedContext
  | handleList
  | requestTrailer
  | responseTrailer
  deriving DecidableEq, Repr

namespace Layout

def Value : Layout → Type
  | structVersion => StructVersion
  | rsaParameters => RsaParameters
  | keyParameters => KeyParameters
  | publicModulus => PublicModulus
  | publicKey => PublicKey
  | keyBlob => KeyBlob
  | registerSelection => RegisterSelection
  | counterValue => CounterValue
  | savedContext => SavedContext
  | handleList => HandleList
  | requestTrailer => RequestTrailer
  | responseTrailer => ResponseTrailer

def encode : (layout : Layout) → layout.Value → Except Fault Bytes
  | structVersion, version => .ok (StructVersion.encode version)
  | rsaParameters, parameters => RsaParameters.encode parameters
  | keyParameters, parameters => KeyParameters.encode parameters
  | publicModulus, modulus => PublicModulus.encode modulus
  | publicKey, key => PublicKey.encode key
  | keyBlob, key => KeyBlob.encode key
  | registerSelection, selection => RegisterSelection.encode selection
  | counterValue, value => .ok (CounterValue.encode value)
  | savedContext, saved => SavedContext.encode saved
  | handleList, list => HandleList.encode list
  | requestTrailer, trailer => .ok (RequestTrailer.encode trailer)
  | responseTrailer, trailer => .ok (ResponseTrailer.encode trailer)

def decode : (layout : Layout) → Decoder layout.Value
  | structVersion => StructVersion.decode
  | rsaParameters => RsaParameters.decode
  | keyParameters => KeyParameters.decode
  | publicModulus => PublicModulus.decode
  | publicKey => PublicKey.decode
  | keyBlob => KeyBlob.decode
  | registerSelection => RegisterSelection.decode
  | counterValue => CounterValue.decode
  | savedContext => SavedContext.decode
  | handleList => HandleList.decode
  | requestTrailer => RequestTrailer.decode
  | responseTrailer => ResponseTrailer.decode

def parts : (layout : Layout) → layout.Value → List Part
  | structVersion, _ => []
  | rsaParameters, parameters => RsaParameters.parts parameters
  | keyParameters, parameters => KeyParameters.parts parameters
  | publicModulus, modulus => PublicModulus.parts modulus
  | publicKey, key => PublicKey.parts key
  | keyBlob, key => KeyBlob.parts key
  | registerSelection, selection => RegisterSelection.parts selection
  | counterValue, _ => []
  | savedContext, saved => SavedContext.parts saved
  | handleList, list => HandleList.parts list
  | requestTrailer, _ => []
  | responseTrailer, _ => []

def parametersIn : (layout : Layout) → layout.Value → List KeyParameters
  | keyParameters, parameters => [parameters]
  | publicKey, key => [PublicKey.parameters key]
  | keyBlob, key => [KeyBlob.parameters key]
  | _, _ => []

def written : (layout : Layout) → layout.Value → Bytes
  | structVersion, version => StructVersion.encode version
  | rsaParameters, parameters => RsaParameters.written parameters
  | keyParameters, parameters => KeyParameters.written parameters
  | publicModulus, modulus => PublicModulus.written modulus
  | publicKey, key => PublicKey.written key
  | keyBlob, key => KeyBlob.written key
  | registerSelection, selection => RegisterSelection.written selection
  | counterValue, value => CounterValue.encode value
  | savedContext, saved => SavedContext.written saved
  | handleList, list => HandleList.written list
  | requestTrailer, trailer => RequestTrailer.encode trailer
  | responseTrailer, trailer => ResponseTrailer.encode trailer

theorem sends (layout : Layout) (value : layout.Value) :
    Sends (layout.encode value) (layout.parts value) (layout.written value) := by
  cases layout with
  | structVersion => exact .pure _
  | rsaParameters => exact RsaParameters.sends value
  | keyParameters => exact KeyParameters.sends value
  | publicModulus => exact PublicModulus.sends value
  | publicKey => exact PublicKey.sends value
  | keyBlob => exact KeyBlob.sends value
  | registerSelection => exact RegisterSelection.sends value
  | counterValue => exact .pure _
  | savedContext => exact SavedContext.sends value
  | handleList => exact HandleList.sends value
  | requestTrailer => exact .pure _
  | responseTrailer => exact .pure _

section

variable {α : Type} {decoder : Decoder α} {parts : α → List Part} {written : α → Bytes}

theorem reads_of_unlimited (reads : decoder.Reads fun value bytes => bytes = written value) :
    decoder.Reads fun value bytes =>
      (∀ parameters ∈ ([] : List KeyParameters), parameters.IsConsistent) ∧
        (∀ part ∈ ([] : List Part), part.Legible) ∧ bytes = written value :=
  reads.congr fun value bytes => by simp

theorem reads_of_limited (reads : decoder.Reads fun value bytes =>
      (∀ part ∈ parts value, part.Legible) ∧ bytes = written value) :
    decoder.Reads fun value bytes =>
      (∀ parameters ∈ ([] : List KeyParameters), parameters.IsConsistent) ∧
        (∀ part ∈ parts value, part.Legible) ∧ bytes = written value :=
  reads.congr fun value bytes => by simp

theorem reads_of_key {parametersOf : α → KeyParameters}
    (reads : decoder.Reads fun value bytes => (parametersOf value).IsConsistent ∧
      (∀ part ∈ parts value, part.Legible) ∧ bytes = written value) :
    decoder.Reads fun value bytes =>
      (∀ parameters ∈ [parametersOf value], parameters.IsConsistent) ∧
        (∀ part ∈ parts value, part.Legible) ∧ bytes = written value :=
  reads.congr fun value bytes => by simp

end

theorem reads (layout : Layout) : layout.decode.Reads fun value bytes =>
    (∀ parameters ∈ layout.parametersIn value, parameters.IsConsistent) ∧
      (∀ part ∈ layout.parts value, part.Legible) ∧ bytes = layout.written value := by
  cases layout with
  | structVersion => exact reads_of_unlimited StructVersion.reads
  | rsaParameters => exact reads_of_limited RsaParameters.reads
  | keyParameters => exact reads_of_key KeyParameters.reads
  | publicModulus => exact reads_of_limited PublicModulus.reads
  | publicKey => exact reads_of_key PublicKey.reads
  | keyBlob => exact reads_of_key KeyBlob.reads
  | registerSelection => exact reads_of_limited RegisterSelection.reads
  | counterValue => exact reads_of_unlimited CounterValue.reads
  | savedContext => exact reads_of_limited SavedContext.reads
  | handleList => exact reads_of_limited HandleList.reads
  | requestTrailer => exact reads_of_unlimited RequestTrailer.reads
  | responseTrailer => exact reads_of_unlimited ResponseTrailer.reads

variable (layout : Layout) (value : layout.Value)

theorem complete_eq_ok_iff (bytes : Bytes) : layout.decode.complete bytes = .ok value ↔
    (∀ parameters ∈ layout.parametersIn value, parameters.IsConsistent) ∧
      (∀ part ∈ layout.parts value, part.Legible) ∧ bytes = layout.written value :=
  layout.reads.complete_iff bytes value

theorem complete_of_encode (bytes : Bytes) (sent : layout.encode value = .ok bytes) :
    layout.decode.complete bytes = .ok value ↔
      ∀ parameters ∈ layout.parametersIn value, parameters.IsConsistent := by
  obtain ⟨fits, rfl⟩ := ((layout.sends value).ok_iff bytes).mp sent
  have legible : ∀ part ∈ layout.parts value, part.Legible :=
    fun part among => .of_not_exceeds (fits part among)
  rw [complete_eq_ok_iff]
  constructor
  · rintro ⟨consistent, _, _⟩
    exact consistent
  · intro consistent
    exact ⟨consistent, legible, rfl⟩

theorem encode_of_complete (bytes : Bytes) (read : layout.decode.complete bytes = .ok value) :
    (layout.encode value = .ok bytes ∨ ∃ cause, layout.encode value = .error (.encoding cause)) ∧
      ((∃ cause, layout.encode value = .error (.encoding cause)) ↔
        ∃ part ∈ layout.parts value, part.SentOnly ∧ part.Exceeds) := by
  obtain ⟨_, legible, rfl⟩ := (layout.complete_eq_ok_iff value bytes).mp read
  have sends := layout.sends value
  constructor
  · by_cases beyond : ∃ part ∈ layout.parts value, part.Exceeds
    · exact Or.inr (sends.error beyond)
    · exact Or.inl (sends.ok fun part among exceeds => beyond ⟨part, among, exceeds⟩)
  · rw [sends.error_iff]
    constructor
    · rintro ⟨part, among, exceeds⟩
      exact ⟨part, among, (legible part among).sentOnly exceeds, exceeds⟩
    · rintro ⟨part, among, _, exceeds⟩
      exact ⟨part, among, exceeds⟩

/-- A structure is refused for its limits and for nothing else, and comes back from its bytes unless
parameters of a key in it are not those of their algorithm. -/
theorem roundTrip :
    ((∃ cause, layout.encode value = .error (.encoding cause)) ↔
        ∃ part ∈ layout.parts value, part.Exceeds) ∧
      (∀ fault, layout.encode value = .error fault → ∃ cause, fault = .encoding cause) ∧
      ∀ bytes, layout.encode value = .ok bytes →
        (layout.decode.complete bytes = .ok value ↔
          ∀ parameters ∈ layout.parametersIn value, parameters.IsConsistent) :=
  ⟨(layout.sends value).error_iff, (layout.sends value).only,
    fun bytes sent => layout.complete_of_encode value bytes sent⟩

/-- Parameters of an RSA key under the name of another algorithm are sent, and come back as another
value; a key with its own comes back. -/
theorem roundTrip_of_template :
    (∃ bytes, keyBlob.encode (KeyBlob.template .storage 2048 0) = .ok bytes ∧
      keyBlob.decode.complete bytes = .ok (KeyBlob.template .storage 2048 0)) ∧
    ∃ bytes, keyParameters.encode ⟨6, 3, 1, .rsa ⟨2048, 2, []⟩⟩ = .ok bytes ∧
      keyParameters.decode.complete bytes ≠ .ok ⟨6, 3, 1, .rsa ⟨2048, 2, []⟩⟩ := by
  constructor
  · refine ⟨_, rfl, ((roundTrip keyBlob (KeyBlob.template .storage 2048 0)).2.2 _ rfl).mpr ?_⟩
    intro parameters among
    obtain rfl := List.mem_singleton.mp among
    decide
  · refine ⟨_, rfl, fun same => ?_⟩
    have consistent := ((roundTrip keyParameters ⟨6, 3, 1, .rsa ⟨2048, 2, []⟩⟩).2.2 _ rfl).mp same
    exact absurd (consistent _ List.mem_cons_self) (by decide)

end Layout

end TrustedPlatform
