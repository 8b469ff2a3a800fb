import TrustedPlatform.Proofs.Channel.Tap
import TrustedPlatform.Proofs.Client.Conclusion
import TrustedPlatform.Proofs.Frame.RequestReading

/-!
# An honest module

What a module keeps of its sessions (`Vault`), and how it answers while it is honest
(`Vault.Answers`).  It may refuse anything with any result code, and choose handles, nonces and
blobs as it likes, as long as they are new where they have to be.  Every module that answers like
that serves a run of exchanges (`Vault.Serves`).
-/

set_option autoImplicit false

namespace TrustedPlatform

/-- How many handles a successful response begins with. -/
def Ordinal.outputCount : Ordinal → Nat
  | .loadKey | .loadKey2 | .loadKeyContext | .loadAuthContext | .loadContext => 1
  | _ => 0

structure Hosted where
  nonceEven : Digest
  shared? : Option Secret
  -- The even nonces that were used in the session, those of its setup included.
  usedEven : List Digest

structure Vault where
  sessions : UInt32 → Option Hosted
  -- The sessions that were moved out, by their blobs.
  saved : Bytes → Option Hosted
  commandSecret : Ordinal → List UInt32 → Bytes → Secret
  entitySecret : Entity → Secret
  rejected : Nat

namespace Hosted

def key (hosted : Hosted) (vault : Vault) (request : Request) : Secret :=
  hosted.shared?.getD (vault.commandSecret request.ordinal request.handles request.parameters)

def advanced (hosted : Hosted) (nonceEven : Digest) : Hosted :=
  { hosted with nonceEven, usedEven := nonceEven :: hosted.usedEven }

end Hosted

namespace Vault

def put (vault : Vault) (handle : UInt32) (hosted? : Option Hosted) : Vault :=
  { vault with
    sessions := fun other => if other = handle then hosted? else vault.sessions other }

def store (vault : Vault) (blob : Bytes) (hosted? : Option Hosted) : Vault :=
  { vault with saved := fun other => if other = blob then hosted? else vault.saved other }

def endAll (vault : Vault) (trailers : List RequestTrailer) : Vault :=
  trailers.foldl (fun vault trailer => vault.put trailer.handle none) vault

/-- A trailer proves knowledge of the key of a session that is kept. -/
def Proves (vault : Vault) (request : Request) (trailer : RequestTrailer) : Prop :=
  ∃ hosted, vault.sessions trailer.handle = some hosted ∧
    trailer.authorization =
      (hosted.key vault request).authorize
        (Secret.requestDigest request.ordinal request.parameters) hosted.nonceEven
        trailer.nonceOdd trailer.continueSession

def refusal (code : UInt32) : Bytes := Response.frame ⟨.response, code, []⟩

def Refuses (response : Bytes) (code : UInt32) : Prop :=
  code ≠ ResultCode.success ∧ response = refusal code

/-- The part of an output that the authorization of the response covers: of all commands, only for
the older one that loads a key are the handles part of it. -/
def covered (ordinal : Ordinal) (reply : Reply) : Bytes :=
  if ordinal = .loadKey then reply.handles.flatMap Bytes.word32 ++ reply.parameters
  else reply.parameters

def proof (vault : Vault) (request : Request) (hosted : Hosted) (trailer : RequestTrailer)
    (reply : Reply) (nonceEven : Digest) : ResponseTrailer where
  nonceEven := nonceEven
  continueSession := trailer.continueSession
  authorization := (hosted.key vault request).authorize
    (Secret.responseDigest ResultCode.success request.ordinal (covered request.ordinal reply))
    nonceEven trailer.nonceOdd trailer.continueSession

def acceptance (vault : Vault) (request : Request) (hosted : Hosted) (trailer : RequestTrailer)
    (reply : Reply) (nonceEven : Digest) : Bytes :=
  (Command.success .responseOneTrailer reply
    [vault.proof request hosted trailer reply nonceEven]).frame

/-- An authorized command is carried out, which may change every secret.  Its session goes on with a
new even nonce, or it is over. -/
structure Performs (vault : Vault) (request : Request) (trailer : RequestTrailer)
    (hosted : Hosted) (reply : Reply) (nonceEven : Digest) (next : Vault) : Prop where
  held : vault.sessions trailer.handle = some hosted
  isNew : nonceEven ∉ hosted.usedEven
  outputs : reply.handles.length = request.ordinal.outputCount
  fits : (vault.acceptance request hosted trailer reply nonceEven).length < Bytes.capacity 4
  sessions : next.sessions = (vault.put trailer.handle
    (if trailer.continueSession then some (hosted.advanced nonceEven) else none)).sessions
  saved : next.saved = vault.saved
  rejected : next.rejected = vault.rejected

/-- How a request that carries no trailer is granted. -/
inductive Grants (vault : Vault) (request : Request) : Bytes → Vault → Prop where
  | opensOiap (handle : UInt32) (nonceEven : Digest) (asked : request = ⟨.oiap, [], [], []⟩)
      (isFree : vault.sessions handle = none) :
      Grants vault request
        (Command.success .response ⟨[], Bytes.word32 handle ++ nonceEven.bytes⟩ []).frame
        (vault.put handle (some ⟨nonceEven, none, [nonceEven]⟩))
  | opensOsap (entity : Entity) (setupOdd : Digest) (handle : UInt32)
      (nonceEven setupEven : Digest)
      (asked : request = ⟨.osap, [],
        Bytes.word16 entity.kind.code ++ Bytes.word32 entity.value ++ setupOdd.bytes, []⟩)
      (isFree : vault.sessions handle = none) :
      Grants vault request
        (Command.success .response
          ⟨[], Bytes.word32 handle ++ nonceEven.bytes ++ setupEven.bytes⟩ []).frame
        (vault.put handle (some ⟨nonceEven,
          some (Session.sharedSecret (vault.entitySecret entity) setupEven setupOdd),
          [nonceEven, setupEven]⟩))
  | saves (handle : UInt32) (hosted : Hosted) (blob : Bytes)
      (asked : request = ⟨.saveAuthContext, [handle], [], []⟩)
      (held : vault.sessions handle = some hosted) (isNew : vault.saved blob = none)
      (fits : headerSize + 4 + blob.length < Bytes.capacity 4) :
      Grants vault request
        (Command.success .response ⟨[], Bytes.bigEndian 4 blob.length ++ blob⟩ []).frame
        ((vault.put handle none).store blob (some hosted))
  | loads (handle : UInt32) (hosted : Hosted) (blob : Bytes)
      (asked : request = ⟨.loadAuthContext, [], Bytes.bigEndian 4 blob.length ++ blob, []⟩)
      (fits : blob.length < Bytes.capacity 4)
      (kept : vault.saved blob = some hosted) (isFree : vault.sessions handle = none) :
      Grants vault request (Command.success .response ⟨[handle], []⟩ []).frame
        ((vault.put handle (some hosted)).store blob none)

/-- How an honest module answers a request, and what it keeps then. -/
inductive Answers (vault : Vault) (request : Request) : Bytes → Vault → Prop where
  -- Whatever a request asks for may be refused.  That ends the sessions that it named.
  | refuses (code : UInt32) (failed : code ≠ ResultCode.success)
      (proven : ∀ trailer ∈ request.trailers, vault.Proves request trailer) :
      Answers vault request (refusal code) (vault.endAll request.trailers)
  | rejects (code : UInt32) (trailer : RequestTrailer) (failed : code ≠ ResultCode.success)
      (member : trailer ∈ request.trailers) (unproven : ¬ vault.Proves request trailer) :
      Answers vault request (refusal code)
        { vault.endAll request.trailers with rejected := vault.rejected + 1 }
  | grants (response : Bytes) (next : Vault) (granted : vault.Grants request response next) :
      Answers vault request response next
  | performs (trailer : RequestTrailer) (hosted : Hosted) (reply : Reply) (nonceEven : Digest)
      (next : Vault) (one : request.trailers = [trailer])
      (proven : vault.Proves request trailer)
      (performed : vault.Performs request trailer hosted reply nonceEven next) :
      Answers vault request (vault.acceptance request hosted trailer reply nonceEven) next

theorem Grants.plain {vault next : Vault} {request : Request} {response : Bytes}
    (grants : vault.Grants request response next) : request.trailers = [] := by
  cases grants with
  | opensOiap _ _ asked _ => rw [asked]
  | opensOsap _ _ _ _ _ asked _ => rw [asked]
  | saves _ _ _ asked _ _ _ => rw [asked]
  | loads _ _ _ asked _ _ _ => rw [asked]

/-- A request with one right trailer is refused, which ends its session, or is carried out. -/
theorem Answers.of_trailer {vault next : Vault} {request : Request} {response : Bytes}
    {trailer : RequestTrailer} (answers : vault.Answers request response next)
    (one : request.trailers = [trailer]) (proves : vault.Proves request trailer) :
    (∃ code, code ≠ ResultCode.success ∧ response = refusal code ∧
        next = vault.put trailer.handle none) ∨
      ∃ hosted reply nonceEven, vault.Performs request trailer hosted reply nonceEven next ∧
        response = vault.acceptance request hosted trailer reply nonceEven := by
  cases answers with
  | refuses code failed proven =>
    rw [one]
    exact Or.inl ⟨code, failed, rfl, rfl⟩
  | rejects code other failed member unproven =>
    rw [one] at member
    obtain rfl := List.mem_singleton.mp member
    exact absurd proves unproven
  | grants _ _ granted =>
    rw [granted.plain] at one
    cases one
  | performs other hosted reply nonceEven next also proven performed =>
    rw [one] at also
    cases also
    exact Or.inr ⟨hosted, reply, nonceEven, performed, rfl⟩

/-- A request without a trailer is granted, or it is refused, and then nothing changes. -/
theorem Answers.of_plain {vault next : Vault} {request : Request} {response : Bytes}
    (answers : vault.Answers request response next) (plain : request.trailers = []) :
    (∃ code, code ≠ ResultCode.success ∧ response = refusal code ∧ next = vault) ∨
      vault.Grants request response next := by
  cases answers with
  | refuses code failed proven =>
    rw [plain]
    exact Or.inl ⟨code, failed, rfl, rfl⟩
  | rejects code other failed member unproven =>
    rw [plain] at member
    cases member
  | grants _ _ granted => exact Or.inr granted
  | performs other hosted reply nonceEven next also proven performed =>
    rw [plain] at also
    cases also

/-- A module serves exchanges one after the other.  Every one of them is completed. -/
inductive Serves : Vault → List Exchange → Vault → Prop where
  | done (vault : Vault) : Serves vault [] vault
  | answers (vault next last : Vault) (request : Request) (received response : Bytes)
      (rest : List Exchange) (reads : Request.Reads received request)
      (answered : vault.Answers request response next) (served : Serves next rest last) :
      Serves vault (⟨received, .ok response⟩ :: rest) last

theorem serves_nil_iff (vault last : Vault) : vault.Serves [] last ↔ last = vault := by
  constructor
  · intro serves
    cases serves
    rfl
  · rintro rfl
    exact .done last

theorem Serves.split {vault last : Vault} {early late : List Exchange}
    (serves : vault.Serves (early ++ late) last) :
    ∃ between, vault.Serves early between ∧ between.Serves late last := by
  induction early generalizing vault with
  | nil => exact ⟨vault, .done vault, serves⟩
  | cons exchange early inductionHypothesis =>
    cases serves with
    | answers _ next _ request received response _ reads answered served =>
      obtain ⟨between, first, second⟩ := inductionHypothesis served
      exact ⟨between, .answers vault next between request received response early reads answered
        first, second⟩

theorem Serves.answered {vault last : Vault} {bytes : Bytes} {request : Request}
    {answer : Except Fault Bytes} (serves : vault.Serves [⟨bytes, answer⟩] last)
    (reads : Request.Reads bytes request) :
    ∃ response, answer = .ok response ∧ vault.Answers request response last := by
  cases serves with
  | answers _ next _ other _ response _ also answered served =>
    obtain rfl := (serves_nil_iff _ _).mp served
    rw [reads.unique also]
    exact ⟨response, rfl, answered⟩

end Vault

end TrustedPlatform
