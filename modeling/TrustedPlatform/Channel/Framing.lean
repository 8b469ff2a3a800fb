import TrustedPlatform.Frame.Response

/-!
# Framing

Where a response ends.  Its header declares its length, and that is believed within limits only.
From a stream exactly the declared bytes are read; a device hands out reads of its own size, which
are gathered until the declared length is there, and what a read brings beyond it is dropped.

* `declaredLength_eq_ok_iff`: a length is believed from the header's own up to the limit.
* `readFrame_append`: a frame is read from its bytes alone, whatever comes behind them.
-/

set_option autoImplicit false

namespace TrustedPlatform

/-- What is on its way from the far end. -/
structure Inflow where
  bytes : Bytes
  -- Whether nothing will ever follow; otherwise nothing follows for now.
  closed : Bool
  deriving DecidableEq, Repr

def declaredLength (limit : Nat) (header : Bytes) : Except Fault Nat :=
  let declared := Bytes.ofBigEndian ((header.drop 2).take 4)
  if declared < headerSize then .error (.malformed (.frameSmallerThanHeader declared))
  else if limit < declared then .error (.malformed (.frameTooLarge declared limit))
  else .ok declared

theorem declaredLength_eq_ok_iff (limit length : Nat) (header : Bytes) :
    declaredLength limit header = .ok length ↔
      length = Bytes.ofBigEndian ((header.drop 2).take 4) ∧ headerSize ≤ length ∧
        length ≤ limit := by
  unfold declaredLength
  dsimp only
  split
  · rename_i short
    constructor
    · intro found
      cases found
    · rintro ⟨same, enough, _⟩
      omega
  · split
    · constructor
      · intro found
        cases found
      · rintro ⟨same, _, within⟩
        omega
    · constructor
      · intro found
        cases found
        exact ⟨rfl, by omega, by omega⟩
      · rintro ⟨same, _, _⟩
        rw [same]

namespace Inflow

def ended (inflow : Inflow) (activity cause : String) (patience : Duration) : Fault :=
  if inflow.closed then .transport activity cause else .timeout patience

/-- Exactly a count of bytes.  If there are too few, they are lost. -/
def readExact (activity : String) (patience : Duration) (count : Nat) :
    Action Fault Inflow Bytes where
  run inflow :=
    if inflow.bytes.length < count then
      (.error (inflow.ended activity "failed to fill whole buffer" patience),
        { inflow with bytes := [] })
    else (.ok (inflow.bytes.take count), { inflow with bytes := inflow.bytes.drop count })

def readFrame (limit : Nat) (patience : Duration) : Action Fault Inflow Bytes := do
  let header ← readExact "reading response header" patience headerSize
  let declared ← Action.ofExcept (declaredLength limit header)
  let body ← readExact "reading response body" patience (declared - headerSize)
  return header ++ body

def largestRead : Nat := 4096

def reads (inflow : Inflow) : List Bytes :=
  Bytes.pieces largestRead ((inflow.bytes.length + largestRead - 1) / largestRead) inflow.bytes

/-- Gathers reads behind the bytes there are already, until they hold a frame.  The frame, or why
there is none, and the reads not used. -/
def gather (limit : Nat) (atEnd : Fault) (gathered : Bytes) :
    List Bytes → Except Fault Bytes × List Bytes
  | [] => (.error atEnd, [])
  | read :: reads =>
    let frame := gathered ++ read
    if frame.length < headerSize then gather limit atEnd frame reads
    else
      match declaredLength limit frame with
      | .error fault => (.error fault, reads)
      | .ok declared =>
        if frame.length < declared then gather limit atEnd frame reads
        else (.ok (frame.take declared), reads)

def gatherFrame (limit : Nat) (patience : Duration) : Action Fault Inflow Bytes where
  run inflow :=
    let atEnd := inflow.ended "reading response" "device closed mid-response" patience
    let (outcome, unused) := gather limit atEnd [] inflow.reads
    (outcome, { inflow with bytes := unused.flatten })

theorem run_readExact_append (activity : String) (patience : Duration) (bytes later : Bytes)
    (closed : Bool) :
    (readExact activity patience bytes.length).run ⟨bytes ++ later, closed⟩ =
      (.ok bytes, ⟨later, closed⟩) := by
  have enough : ¬ (bytes ++ later).length < bytes.length := by simp
  simp only [readExact, if_neg enough, List.take_left, List.drop_left]

theorem readFrame_append (limit : Nat) (patience : Duration) (header body later : Bytes)
    (closed : Bool) (isHeader : header.length = headerSize)
    (declared : declaredLength limit header = .ok (headerSize + body.length)) :
    (readFrame limit patience).run ⟨header ++ (body ++ later), closed⟩ =
      (.ok (header ++ body), ⟨later, closed⟩) := by
  have bodyLength : headerSize + body.length - headerSize = body.length := by omega
  simp only [readFrame, Action.run_bind, ← isHeader, run_readExact_append, Action.run_ofExcept]
  rw [isHeader, declared]
  simp only [bodyLength, run_readExact_append, Action.run_pure]

end Inflow

end TrustedPlatform
