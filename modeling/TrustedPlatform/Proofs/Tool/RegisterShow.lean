import TrustedPlatform.Proofs.CommandLine.RegisterWords
import TrustedPlatform.Proofs.Module.RegisterBank
import TrustedPlatform.Proofs.Tool.Leaving

/-!
# Registers that are shown

Registers are read one after the other, each with one request, and shown line by line up to the
first that cannot be read (`RowShown`).  Those are the register that was asked for, or as many as
the module says there are: `Invocation.showsRegisters`.  At the one register that has no next number
the program breaks off, before it is read.
-/

set_option autoImplicit false

namespace TrustedPlatform

def Command.countingRegisters : Command where
  ordinal := .getCapability
  parameters := Bytes.word32 Capability.property.code ++
    (Bytes.word32 registerCountProperty).withLength

def registerValue (register : UInt32) (answer : Except Fault Bytes) : Except Fault Digest :=
  (Command.readingRegister register).value Decoder.digest answer

def registerCount (answer : Except Fault Bytes) : Except Fault UInt32 :=
  Command.countingRegisters.value Decoder.sized answer >>= Decoder.word32.complete

namespace Client

variable {σ : Type} [Channel σ]

theorem run_readRegister (register : UInt32) (client : Client σ) (answer : Except Fault Bytes)
    (link : Link σ) (transmitted :
      (Link.transmit (Command.readingRegister register).plainFrame).run client.link =
        (answer, link)) :
    (readRegister register).run client = (registerValue register answer, { client with link }) := by
  refine run_ask (Command.readingRegister register) Decoder.digest client answer link rfl ?_
    transmitted
  unfold Command.plainFrame
  rw [Request.length_frame]
  simp only [Command.readingRegister, Bytes.length_word32]
  decide

theorem run_countRegisters (client : Client σ) (answer : Except Fault Bytes) (link : Link σ)
    (transmitted :
      (Link.transmit Command.countingRegisters.plainFrame).run client.link = (answer, link)) :
    (capabilityNumber .property registerCountProperty).run client =
      (registerCount answer, { client with link }) := by
  have shape : (capabilityNumber .property registerCountProperty : Action Fault (Client σ) UInt32) =
      ask Command.countingRegisters Decoder.sized >>= fun answer =>
        Action.ofExcept (Decoder.word32.complete answer) := rfl
  have asked := run_ask Command.countingRegisters Decoder.sized client answer link rfl (by decide)
    transmitted
  unfold registerCount
  rw [shape, Action.run_bind, asked]
  cases Command.countingRegisters.value Decoder.sized answer with
  | error fault => rfl
  | ok found => rfl

end Client

namespace Tool

/-- What comes of registers that are to be shown: the exchanges, what is printed, the outcome. -/
inductive RowShown : List UInt32 → List Exchange → Bytes → Except Failure Unit → Prop where
  | none : RowShown [] [] [] (.ok ())
  | missed (register : UInt32) (others : List UInt32) (answer : Except Fault Bytes) (fault : Fault)
      (unread : registerValue register answer = .error fault) :
      RowShown (register :: others) [⟨(Command.readingRegister register).plainFrame, answer⟩] []
        (.error ⟨[.readingRegister register], .module fault⟩)
  | shown (register : UInt32) (others : List UInt32) (answer : Except Fault Bytes) (value : Digest)
      (sent : List Exchange) (printed : Bytes) (outcome : Except Failure Unit)
      (read : registerValue register answer = .ok value)
      (later : RowShown others sent printed outcome) :
      RowShown (register :: others)
        (⟨(Command.readingRegister register).plainFrame, answer⟩ :: sent)
        (Bytes.ofText (registerLine register value ++ "\n") ++ printed) outcome

/-- What comes of showing one register, or all that there are. -/
inductive RegistersShown :
    Option UInt32 → List Exchange → Bytes → Except Failure Unit → Prop where
  | one (register : UInt32) (sent : List Exchange) (printed : Bytes)
      (outcome : Except Failure Unit) (isNotLast : register ≠ 0xffffffff)
      (row : RowShown [register] sent printed outcome) :
      RegistersShown (some register) sent printed outcome
  | last : RegistersShown (some 0xffffffff) [] [] (.error .ofOverflow)
  | uncounted (answer : Except Fault Bytes) (fault : Fault)
      (unread : registerCount answer = .error fault) :
      RegistersShown none [⟨Command.countingRegisters.plainFrame, answer⟩] []
        (.error ⟨[.countingRegisters], .module fault⟩)
  | all (answer : Except Fault Bytes) (count : UInt32) (row : List UInt32) (sent : List Exchange)
      (printed : Bytes) (outcome : Except Failure Unit)
      (counted : registerCount answer = .ok count)
      (numbers : row.map UInt32.toNat = List.range count.toNat)
      (shown : RowShown row sent printed outcome) :
      RegistersShown none (⟨Command.countingRegisters.plainFrame, answer⟩ :: sent) printed outcome

def Desk.output {σ : Type} (desk : Desk σ) : Bytes := desk.printed.reverse.flatten

theorem Desk.output_cons {σ : Type} (client : Client σ) (files : Files) (piece : Bytes)
    (printed : List Bytes) :
    output ⟨client, files, piece :: printed⟩ = output ⟨client, files, printed⟩ ++ piece := by
  unfold output
  rw [List.reverse_cons, List.flatten_append, List.flatten_singleton]

theorem before_last_of_ne (register : UInt32) (isNotLast : register ≠ 0xffffffff) :
    register.toNat + 1 < UInt32.size := by
  have different : register.toNat ≠ 0xffffffff := fun same => isNotLast (UInt32.toNat_inj.mp same)
  have bound := register.toNat_lt
  show register.toNat + 1 < 2 ^ 32
  omega

section

variable {σ : Type} [Channel σ]

/-- A row is shown register by register, as long as the next request can be sent. -/
theorem run_showRow (first others : Nat) (desk : Desk (Tapped σ)) (ready : desk.client.link.Ready) :
    ∃ sent printed,
      ((showRow first others).run desk).2.client.link.record = desk.client.link.record ++ sent ∧
      ((showRow first others).run desk).2.output = desk.output ++ printed ∧
      RowShown ((List.range' first others).map UInt32.ofNat) sent printed
        ((showRow first others).run desk).1 := by
  induction others generalizing first desk with
  | zero => exact ⟨[], [], (List.append_nil _).symm, (List.append_nil _).symm, .none⟩
  | succ others inductionHypothesis =>
    obtain ⟨client, files, printed⟩ := desk
    let register := UInt32.ofNat first
    cases transmitted :
        (Link.transmit (Command.readingRegister register).plainFrame).run client.link with
    | mk answer link =>
      have exchanged := Link.exchanges _ _ _ _ transmitted ready
      have read := Desk.run_during (.readingRegister register) _ ⟨client, files, printed⟩ _ _
        (Client.run_readRegister register client answer link transmitted)
      rw [showRow, Action.run_bind, read, List.range'_succ, List.map_cons]
      cases found : registerValue register answer with
      | error fault =>
        exact ⟨[_], [], exchanged.recorded, (List.append_nil _).symm,
          .missed register _ answer fault found⟩
      | ok value =>
        obtain ⟨response, received⟩ := Command.received_of_value _ _ _ _ found
        let line := Bytes.ofText (registerLine register value ++ "\n")
        obtain ⟨sent, more, recorded, output, shown⟩ := inductionHypothesis (first + 1)
          ⟨{ client with link }, files, line :: printed⟩ (exchanged.ready response received)
        refine ⟨⟨_, answer⟩ :: sent, line ++ more, ?_, ?_,
          .shown register _ answer value sent more _ found shown⟩
        · refine recorded.trans ?_
          show link.record ++ sent = client.link.record ++ (⟨_, answer⟩ :: sent)
          rw [exchanged.recorded, List.append_assoc, List.singleton_append]
        · refine output.trans ?_
          rw [Desk.output_cons, List.append_assoc]
          rfl

/-- The registers up to a count, in their order; none of their numbers is too large. -/
theorem map_toNat_row (count : UInt32) :
    ((List.range' 0 count.toNat).map UInt32.ofNat).map UInt32.toNat = List.range count.toNat := by
  rw [List.map_map, List.range_eq_range']
  refine (List.map_congr_left fun number among => ?_).trans (List.map_id _)
  obtain ⟨place, below, rfl⟩ := List.mem_range'.mp among
  refine UInt32.toNat_ofNat_of_lt' ?_
  rw [Nat.zero_add, Nat.one_mul]
  exact Nat.lt_trans below count.toNat_lt

theorem run_readRegisters (register? : Option UInt32) (desk : Desk (Tapped σ))
    (clean : desk.client.link.spoiled = false) :
    ∃ sent printed,
      ((readRegisters register?).run desk).2.client.link.record =
        desk.client.link.record ++ sent ∧
      ((readRegisters register?).run desk).2.output = desk.output ++ printed ∧
      RegistersShown register? sent printed ((readRegisters register?).run desk).1 := by
  cases register? with
  | some register =>
    by_cases last : register = 0xffffffff
    · rw [last, run_readRegisters_of_last 0xffffffff desk (by decide)]
      exact ⟨[], [], (List.append_nil _).symm, (List.append_nil _).symm, .last⟩
    · obtain ⟨sent, printed, recorded, output, row⟩ :=
        run_showRow register.toNat 1 desk (desk.client.link.ready_of_clean clean)
      rw [run_readRegisters_of_lt register desk (before_last_of_ne register last)]
      rw [List.range'_one, List.map_singleton, UInt32.ofNat_toNat] at row
      exact ⟨sent, printed, recorded, output, .one register sent printed _ last row⟩
  | none =>
    obtain ⟨client, files, pieces⟩ := desk
    cases transmitted :
        (Link.transmit Command.countingRegisters.plainFrame).run client.link with
    | mk answer link =>
      have exchanged := Link.exchanges_of_clean _ _ _ _ transmitted clean
      have asked := Desk.run_during .countingRegisters _ ⟨client, files, pieces⟩ _ _
        (Client.run_countRegisters client answer link transmitted)
      rw [readRegisters, Action.run_bind, asked]
      cases counted : registerCount answer with
      | error fault =>
        exact ⟨[_], [], exchanged.recorded, (List.append_nil _).symm,
          .uncounted answer fault counted⟩
      | ok count =>
        obtain ⟨response, received⟩ : ∃ response, answer = .ok response := by
          cases answer with
          | error fault => cases counted
          | ok response => exact ⟨response, rfl⟩
        obtain ⟨sent, printed, recorded, output, row⟩ := run_showRow 0 count.toNat
          ⟨{ client with link }, files, pieces⟩ (exchanged.ready response received)
        refine ⟨⟨_, answer⟩ :: sent, printed, ?_, output,
          .all answer count _ sent printed _ counted (map_toNat_row count) row⟩
        refine recorded.trans ?_
        show link.record ++ sent = client.link.record ++ (⟨_, answer⟩ :: sent)
        rw [exchanged.recorded, List.append_assoc, List.singleton_append]

/-- Told to show registers, the tool reads and shows just those that it was asked for, all but the
one with the largest number: there it breaks off, with nothing read or shown. -/
theorem Invocation.showsRegisters (register? : Option UInt32) (words : List String)
    (asks : AsksFor register? words) (surroundings : Surroundings σ) :
    ∃ invocation, Invocation.ofWords words = .ok invocation ∧
      ∀ channel, (invocation.run surroundings.tapped).channel? = some channel →
        RegistersShown register? channel.record (invocation.run surroundings.tapped).printed
          (invocation.run surroundings.tapped).outcome := by
  refine ⟨⟨false, .readRegisters register?⟩, ofWords_of_asksFor register? words asks, ?_⟩
  intro channel ran
  obtain ⟨desk, clean, begun, blank, outcome, after, done, report⟩ :=
    Invocation.run_of_channel _ surroundings channel ran
  rw [report] at ran ⊢
  cases ran
  obtain ⟨sent, printed, recorded, output, shown⟩ := run_readRegisters register? desk clean
  have left : (readRegisters register?).run desk = (outcome, after) := done
  rw [left] at recorded output shown
  have whole : after.client.link.channel.record = sent := by
    rw [← List.nil_append sent, ← begun]
    exact recorded
  have shows : after.printed.reverse.flatten = printed := by
    rw [Desk.output, Desk.output, blank] at output
    exact output
  rw [whole, shows]
  exact shown

end

namespace RegisterShow

def surroundings : Surroundings Script :=
  Leaving.surroundings [Command.showing (.replicate 20 6)]

/-- The register before the last is read and shown. -/
theorem shown_of_fffffffe :
    AsksFor (some 0xfffffffe) ["pcrread", "--pcr", "0xfffffffe"] ∧
      ∃ invocation channel,
        Invocation.ofWords ["pcrread", "--pcr", "0xfffffffe"] = .ok invocation ∧
        (invocation.run surroundings.tapped).channel? = some channel ∧
        channel.record.length = 1 ∧
        RegistersShown (some 0xfffffffe) channel.record (invocation.run surroundings.tapped).printed
          (invocation.run surroundings.tapped).outcome := by
  have asks : AsksFor (some 0xfffffffe) ["pcrread", "--pcr", "0xfffffffe"] := .one _ _ rfl
  obtain ⟨invocation, told, shows⟩ := Invocation.showsRegisters _ _ asks surroundings
  have same : Invocation.ofWords ["pcrread", "--pcr", "0xfffffffe"] =
      .ok ⟨false, .readRegisters (some 0xfffffffe)⟩ := rfl
  rw [same] at told
  cases told
  exact ⟨asks, _, _, same, rfl, rfl, shows _ rfl⟩

/-- The last register cannot be shown: nothing is asked, though the device would show its value, and
the program breaks off. -/
theorem unread_of_ffffffff :
    ∃ invocation channel,
      Invocation.ofWords ["pcrread", "--pcr", "4294967295"] = .ok invocation ∧
      (invocation.run surroundings.tapped).channel? = some channel ∧
      channel.record = [] ∧
      (invocation.run surroundings.tapped).printed = [] ∧
      (invocation.run surroundings.tapped).outcome = .error .ofOverflow ∧
      (invocation.run surroundings.tapped).panicked = true :=
  ⟨⟨false, .readRegisters (some 0xffffffff)⟩, _, rfl, rfl, rfl, rfl, rfl, rfl⟩

end RegisterShow

end Tool

end TrustedPlatform
