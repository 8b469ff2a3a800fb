import TrustedPlatform.Channel.Script
import TrustedPlatform.Proofs.Client.Runs
import TrustedPlatform.Proofs.Module.RegisterBank
import TrustedPlatform.Proofs.Register.Binding

/-!
# Runs that measure

Registers are extended and read in any order.  What a run does to one register depends on the
extensions of that register only (`RegisterCall.measured`): the value that a module shows for it is
the replay of them, from the value that the register had before the run
(`Workspace.registers_replay`).
-/

set_option autoImplicit false

namespace TrustedPlatform

inductive RegisterCall where
  | extend (register : UInt32) (value : Digest)
  | read (register : UInt32)

namespace RegisterCall

def register : RegisterCall → UInt32
  | extend register _ => register
  | read register => register

def command : RegisterCall → Command
  | extend register value => .extending register value
  | read register => .readingRegister register

def call : RegisterCall → Call
  | extend register value => .plain (.extend register value)
  | read register => .plain (.readRegister register)

def measurement? (register : UInt32) : RegisterCall → Option Digest
  | extend other value => if other = register then some value else none
  | read _ => none

def measured (register : UInt32) (calls : List RegisterCall) : List Digest :=
  calls.filterMap (measurement? register)

theorem measured_append (register : UInt32) (earlier later : List RegisterCall) :
    measured register (earlier ++ later) = measured register earlier ++ measured register later :=
  List.filterMap_append

theorem measured_extend (register : UInt32) (value : Digest) :
    measured register [extend register value] = [value] := by
  simp [measured, measurement?]

theorem measured_of_other (register : UInt32) (call : RegisterCall)
    (other : ∀ value, call ≠ .extend register value) : measured register [call] = [] := by
  cases call with
  | extend extended value =>
    have differ : extended ≠ register := by
      rintro rfl
      exact other value rfl
    simp [measured, measurement?, differ]
  | read _ => rfl

theorem length_plainFrame (call : RegisterCall) :
    call.command.plainFrame.length < Bytes.capacity 4 := by
  unfold Command.plainFrame
  rw [Request.length_frame]
  cases call with
  | extend register value =>
    simp only [command, Command.extending, List.length_append, Bytes.length_word32,
      Block.length_bytes]
    decide
  | read register =>
    simp only [command, Command.readingRegister, Bytes.length_word32]
    decide

theorem reads_plainFrame (call : RegisterCall) :
    Request.Reads call.command.plainFrame call.command.plainRequest := by
  cases call <;> exact Command.reads_plainFrame _ rfl

/-- If a module shows a value in answer to a call, it is the one that the register has then; and
the call was carried out, unless it is an extension that the module shows no value for. -/
theorem answers_of_call (call : RegisterCall) {bank next : RegisterBank}
    {answer : Except Fault Bytes}
    (answers : bank.Answers call.command.plainRequest answer next) :
    ((∀ register, next.value register =
          Register.replay (bank.value register) (measured register [call])) ∧
        RegisterBank.ShowsOnly answer (next.value call.register)) ∨
      (next = bank ∧ ∀ value, answer ≠ .ok (Command.showing value)) := by
  cases call with
  | extend register value =>
    rcases answers.of_extending with ⟨rfl, shows⟩ | ⟨same, silent⟩
    · left
      constructor
      · intro other
        by_cases same : other = register
        · rw [same, measured_extend, RegisterBank.value_extend_self]
          rfl
        · rw [RegisterBank.value_extend_of_ne _ _ _ _ same, measured_of_other other]
          · rfl
          · intro found equal
            cases equal
            exact same rfl
      · show RegisterBank.ShowsOnly answer ((bank.extend register value).value register)
        rw [RegisterBank.value_extend_self]
        exact shows
    · exact Or.inr ⟨same, silent⟩
  | read register =>
    obtain ⟨rfl, shows⟩ := answers.of_reading
    exact Or.inl ⟨fun _ => rfl, shows⟩

variable {σ : Type} [Channel σ]

theorem perform_eq (call : RegisterCall) :
    (call.call.perform : Action Fault (Workspace σ) Answer) =
      Workspace.onClient (Client.ask call.command Decoder.digest >>= fun value =>
        pure (.bytes value.bytes)) := by
  cases call <;> rfl

theorem run_call (call : RegisterCall) (workspace : Workspace σ) (answer : Except Fault Bytes)
    (link : Link σ)
    (transmitted : (Link.transmit call.command.plainFrame).run workspace.client.link =
      (answer, link)) :
    call.call.perform.run workspace =
      ((call.command.value Decoder.digest answer).map fun value => .bytes value.bytes,
        { workspace with client := { workspace.client with link } }) := by
  have plain : call.command.newSecret = none := by cases call <;> rfl
  have asked := Client.run_ask call.command Decoder.digest workspace.client answer link plain
    call.length_plainFrame transmitted
  rw [perform_eq, Workspace.onClient, Action.run_zoom,
    Action.run_bind_pure _ (fun value => Answer.bytes value.bytes) _ _ _ asked]

/-- What comes of a call that is made on a link, as far as it is shown a value: it yields the value,
and fails if it is shown none. -/
inductive Course (call : RegisterCall) (link : Link σ) (value : Digest) :
    List Exchange → Except Fault Answer → Prop where
  | shown :
      Course call link value [⟨call.command.plainFrame, .ok (Command.showing value)⟩]
        (.ok (.bytes value.bytes))
  | failed (answer : Except Fault Bytes) (fault : Fault)
      (silent : ∀ other, answer ≠ .ok (Command.showing other)) :
      Course call link value [⟨call.command.plainFrame, answer⟩] (.error fault)
  | unreached (fault : Fault) (stuck : link.Stuck fault) :
      Course call link value [] (.error fault)

theorem run_course (call : RegisterCall) (workspace : Workspace (Tapped σ)) :
    ∃ own value,
      (call.call.perform.run workspace).2.client.link.record =
          workspace.client.link.record ++ own ∧
        call.Course workspace.client.link value own (call.call.perform.run workspace).1 := by
  have single : call.command.outputHandles = 0 := by cases call <;> rfl
  cases transmitted : (Link.transmit call.command.plainFrame).run workspace.client.link with
  | mk answer link =>
    rw [run_call call workspace answer link transmitted]
    rcases workspace.client.link.ready_or_stuck with ready | ⟨fault, stuck⟩
    · have exchanged := Link.exchanges _ _ _ _ transmitted ready
      cases found : call.command.value Decoder.digest answer with
      | error fault =>
        refine ⟨_, Block.replicate 20 0, exchanged.recorded, .failed answer fault ?_⟩
        intro other shown
        rw [(Command.value_digest_eq_ok_iff _ single _ _).mpr shown] at found
        cases found
      | ok value =>
        obtain rfl := (Command.value_digest_eq_ok_iff _ single _ _).mp found
        exact ⟨_, value, exchanged.recorded, .shown⟩
    · obtain ⟨rfl, unsent⟩ := Link.unsent_of_stuck _ _ _ _ transmitted fault stuck
      exact ⟨[], Block.replicate 20 0, unsent.trans (List.append_nil _).symm,
        .unreached fault stuck⟩

namespace Course

variable {call : RegisterCall} {link : Link (Tapped σ)} {value : Digest} {own : List Exchange}
  {outcome : Except Fault Answer} (course : call.Course link value own outcome)

include course

theorem answer_eq (answer : Answer) (succeeded : outcome = .ok answer) :
    answer = .bytes value.bytes := by
  cases course with
  | shown => exact (Except.ok.inj succeeded).symm
  | failed _ _ _ => cases succeeded
  | unreached _ _ => cases succeeded

variable {bank next : RegisterBank} (serves : bank.Serves own next)

include serves

/-- A call extends a register or leaves it as it is, provided that no extension of it fails. -/
theorem value_of_serves (register : UInt32)
    (succeeded : ∀ value, call = .extend register value → ∃ answer, outcome = .ok answer) :
    next.value register = Register.replay (bank.value register) (measured register [call]) := by
  -- No extension of the register fails, so what fails is none.
  have unmeasured : ∀ fault, outcome = .error fault → measured register [call] = [] := by
    rintro fault rfl
    refine measured_of_other register call fun measurement extension => ?_
    obtain ⟨_, impossible⟩ := succeeded measurement extension
    cases impossible
  cases course with
  | shown =>
    rcases call.answers_of_call (Serving.only serves call.reads_plainFrame) with
      ⟨values, _⟩ | ⟨_, silent⟩
    · exact values register
    · exact absurd rfl (silent value)
  | failed answer fault silent =>
    rcases call.answers_of_call (Serving.only serves call.reads_plainFrame) with
      ⟨values, _⟩ | ⟨rfl, _⟩
    · exact values register
    · rw [unmeasured fault rfl]
      rfl
  | unreached fault stuck =>
    rw [Serving.eq_of_nil serves, unmeasured fault rfl]
    rfl

theorem of_serves : call.Course link (next.value call.register) own outcome := by
  cases course with
  | shown =>
    rcases call.answers_of_call (Serving.only serves call.reads_plainFrame) with
      ⟨_, shows⟩ | ⟨_, silent⟩
    · rw [← shows value rfl]
      exact .shown
    · exact absurd rfl (silent value)
  | failed answer fault silent => exact .failed answer fault silent
  | unreached fault stuck => exact .unreached fault stuck

end Course

end RegisterCall

namespace Workspace

open RegisterCall (measured)

variable {σ : Type} [Channel σ]

theorem record_run_registers (calls : List RegisterCall) (workspace : Workspace (Tapped σ)) :
    ∃ sent, (workspace.run (calls.map RegisterCall.call)).2.client.link.record =
      workspace.client.link.record ++ sent := by
  induction calls generalizing workspace with
  | nil => exact ⟨[], (List.append_nil _).symm⟩
  | cons call calls inductionHypothesis =>
    obtain ⟨own, _, recorded, _⟩ := call.run_course workspace
    obtain ⟨rest, also⟩ := inductionHypothesis (call.call.perform.run workspace).2
    refine ⟨own ++ rest, ?_⟩
    rw [List.map_cons, run_cons, also, recorded, List.append_assoc]

/-- Every extension of a register was successful, of the calls of a run with these outcomes. -/
def Extends (register : UInt32) (calls : List RegisterCall)
    (outcomes : List (Except Fault Answer)) : Prop :=
  ∀ value outcome, (RegisterCall.extend register value, outcome) ∈ calls.zip outcomes →
    ∃ answer, outcome = .ok answer

/-- A run extends a register by what it is measured with, whatever becomes of other calls. -/
theorem value_of_run (calls : List RegisterCall) (workspace : Workspace (Tapped σ))
    (sent : List Exchange) (bank last : RegisterBank) (register : UInt32)
    (recorded : (workspace.run (calls.map RegisterCall.call)).2.client.link.record =
      workspace.client.link.record ++ sent)
    (serves : bank.Serves sent last)
    (succeeded : Extends register calls (workspace.run (calls.map RegisterCall.call)).1) :
    last.value register = Register.replay (bank.value register) (measured register calls) := by
  induction calls generalizing workspace sent bank with
  | nil =>
    obtain rfl := List.append_cancel_left (recorded.symm.trans (List.append_nil _).symm)
    rw [Serving.eq_of_nil serves]
    rfl
  | cons call calls inductionHypothesis =>
    rw [List.map_cons, run_cons] at recorded succeeded
    obtain ⟨own, _, recordedOwn, course⟩ := call.run_course workspace
    obtain ⟨rest, recordedRest⟩ := record_run_registers calls (call.call.perform.run workspace).2
    rw [recordedRest, recordedOwn, List.append_assoc] at recorded
    obtain rfl := List.append_cancel_left recorded
    obtain ⟨between, served, servesRest⟩ := Serving.split serves
    have first := course.value_of_serves served register fun value extension =>
      succeeded value _ (by rw [extension]; exact List.mem_cons_self)
    rw [inductionHypothesis _ _ _ recordedRest servesRest fun value outcome member =>
      succeeded value outcome (List.mem_cons_of_mem _ member), first, ← Register.replay_append,
      ← RegisterCall.measured_append]
    rfl

/-- A call in the midst of a run yields the replay of what the register was extended with so far. -/
theorem course_in_run (earlier later : List RegisterCall) (call : RegisterCall)
    (workspace : Workspace (Tapped σ)) (sent : List Exchange) (bank last : RegisterBank)
    (recorded :
      (workspace.run ((earlier ++ call :: later).map RegisterCall.call)).2.client.link.record =
        workspace.client.link.record ++ sent)
    (serves : bank.Serves sent last)
    (succeeded : Extends call.register (earlier ++ call :: later)
      (workspace.run ((earlier ++ call :: later).map RegisterCall.call)).1) :
    ∃ early own late outcome,
      sent = early ++ own ++ late ∧
        (workspace.run ((earlier ++ call :: later).map RegisterCall.call)).1[earlier.length]? =
          some outcome ∧
        call.Course (workspace.run (earlier.map RegisterCall.call)).2.client.link
          (Register.replay (bank.value call.register)
            (measured call.register (earlier ++ [call]))) own outcome := by
  have count := length_run workspace (earlier.map RegisterCall.call)
  rw [List.length_map] at count
  rw [List.map_append, List.map_cons, run_append, run_cons] at recorded succeeded ⊢
  dsimp only at recorded succeeded ⊢
  obtain ⟨early, recordedEarly⟩ := record_run_registers earlier workspace
  obtain ⟨own, _, recordedOwn, course⟩ :=
    call.run_course (workspace.run (earlier.map RegisterCall.call)).2
  obtain ⟨late, recordedLate⟩ := record_run_registers later
    (call.call.perform.run (workspace.run (earlier.map RegisterCall.call)).2).2
  rw [recordedLate, recordedOwn, recordedEarly, List.append_assoc, List.append_assoc] at recorded
  obtain rfl := List.append_cancel_left recorded
  obtain ⟨before, servedEarly, servesRest⟩ := Serving.split serves
  obtain ⟨after, servedOwn, _⟩ := Serving.split servesRest
  rw [Extends, List.zip_append count.symm, List.zip_cons_cons] at succeeded
  have begun := value_of_run earlier workspace early bank before call.register recordedEarly
    servedEarly fun value outcome member =>
      succeeded value outcome (List.mem_append_left _ member)
  have extended := course.value_of_serves servedOwn call.register fun value extension =>
    succeeded value _ (by
      rw [← extension]
      exact List.mem_append_right _ List.mem_cons_self)
  have yields := course.of_serves servedOwn
  rw [extended, begun, ← Register.replay_append, ← RegisterCall.measured_append] at yields
  refine ⟨early, own, late, _, (List.append_assoc _ _ _).symm, ?_, yields⟩
  rw [← count, List.getElem?_append_right (Nat.le_refl _), Nat.sub_self]
  rfl

/-- Replays of one length that end in one value are the same, or two strings that were hashed for
them collide.  And what a module shows for a register, whenever it is extended or read, is the
replay of what the register was extended with until then, if all of its extensions were successful;
whatever is done with other registers in between, and whatever becomes of that. -/
theorem registers_replay :
    (∀ (first second : Digest) (values others : List Digest), values.length = others.length →
      Register.replay first values = Register.replay second others →
      (first = second ∧ values = others) ∨
        ∃ bytes ∈ Register.extensions first values,
          ∃ otherBytes ∈ Register.extensions second others,
            bytes.length = 40 ∧ otherBytes.length = 40 ∧ Sha1.Collision bytes otherBytes) ∧
    ∀ (σ : Type) [Channel σ] (workspace : Workspace (Tapped σ)) (calls : List RegisterCall)
      (outcomes : List (Except Fault Answer)) (final : Workspace (Tapped σ)) (sent : List Exchange)
      (bank last : RegisterBank) (register : UInt32),
      workspace.run (calls.map RegisterCall.call) = (outcomes, final) →
      final.client.link.record = workspace.client.link.record ++ sent →
      bank.Serves sent last →
      Extends register calls outcomes →
      last.value register = Register.replay (bank.value register) (measured register calls) ∧
        ∀ (earlier : List RegisterCall) (call : RegisterCall) (later : List RegisterCall),
          calls = earlier ++ call :: later → call.register = register →
          ∃ early own late outcome,
            sent = early ++ own ++ late ∧ outcomes[earlier.length]? = some outcome ∧
              call.Course (workspace.run (earlier.map RegisterCall.call)).2.client.link
                (Register.replay (bank.value register) (measured register (earlier ++ [call])))
                own outcome := by
  constructor
  · intro first second values others count same
    rcases Register.replay_binds first second values others count same with
      alike | ⟨bytes, among, otherBytes, amongOthers, collision⟩
    · exact Or.inl alike
    · exact Or.inr ⟨bytes, among, otherBytes, amongOthers,
        Register.length_of_extensions first values bytes among,
        Register.length_of_extensions second others otherBytes amongOthers, collision⟩
  · intro σ _ workspace calls outcomes final sent bank last register ran recorded serves succeeded
    obtain rfl : outcomes = _ := (congrArg Prod.fst ran).symm
    obtain rfl : final = _ := (congrArg Prod.snd ran).symm
    refine ⟨value_of_run calls workspace sent bank last register recorded serves succeeded, ?_⟩
    rintro earlier call later rfl rfl
    exact course_in_run earlier later call workspace sent bank last recorded serves succeeded

namespace Measuring

def value (number : Nat) : Digest := Block.replicate 20 (.ofNat number)

def once : Digest := Register.extend (value 0) (value 1)

def other : Digest := Register.extend (value 0) (value 2)

def twice : Digest := Register.extend once (value 4)

def bank : RegisterBank := ⟨fun _ => value 0⟩

def calls : List RegisterCall :=
  [.extend 0 (value 1), .extend 1 (value 2), .extend 1 (value 3), .extend 0 (value 4), .read 0]

def responses : List Bytes :=
  [Command.showing once, Command.showing other, Bytes.word16 0xc4 ++ Bytes.bigEndian 4 10 ++
    Bytes.word32 0x800, Command.showing twice, Command.showing twice]

def exchange (call : RegisterCall) (response : Bytes) : Exchange :=
  ⟨call.command.plainFrame, .ok response⟩

def outcome (call : RegisterCall) (response : Bytes) : Except Fault Answer :=
  (call.command.value Decoder.digest (.ok response)).map fun value => .bytes value.bytes

def workspace (responses requests : List Bytes) (record : List Exchange) :
    Workspace (Tapped Script) :=
  .fresh (.fresh ⟨⟨responses.map .answer, .error Script.exhausted, requests, 0⟩, none, record⟩
    ⟨value, 0⟩ 1)

theorem run_responses (calls : List RegisterCall) (responses requests : List Bytes)
    (record : List Exchange) (count : calls.length = responses.length) :
    (workspace responses requests record).run (calls.map RegisterCall.call) =
      (List.zipWith outcome calls responses,
        workspace [] ((calls.map fun call => call.command.plainFrame).reverse ++ requests)
          (record ++ List.zipWith exchange calls responses)) := by
  induction calls generalizing responses requests record with
  | nil =>
    obtain rfl := List.length_eq_zero_iff.mp count.symm
    simp [Workspace.run]
  | cons call calls inductionHypothesis =>
    cases responses with
    | nil => cases count
    | cons response responses =>
      have first : call.call.perform.run (workspace (response :: responses) requests record) =
          (outcome call response, workspace responses (call.command.plainFrame :: requests)
            (record ++ [exchange call response])) := call.run_call _ _ _ rfl
      rw [List.map_cons, run_cons, first, inductionHypothesis _ _ _ (Nat.succ.inj count)]
      simp

theorem outcome_showing (call : RegisterCall) (shown : Digest) :
    outcome call (Command.showing shown) = .ok (.bytes shown.bytes) := by
  have single : call.command.outputHandles = 0 := by cases call <;> rfl
  rw [outcome, (Command.value_digest_eq_ok_iff _ single _ shown).mpr rfl]
  rfl

theorem serves_calls :
    bank.Serves (List.zipWith exchange calls responses)
      (((bank.extend 0 (value 1)).extend 1 (value 2)).extend 0 (value 4)) := by
  refine .answers _ _ _ _ _ _ _ (RegisterCall.reads_plainFrame _)
    (.measures 0 (value 1) rfl rfl (RegisterBank.showsOnly_showing _)) ?_
  refine .answers _ _ _ _ _ _ _ (RegisterCall.reads_plainFrame _)
    (.measures 1 (value 2) rfl rfl (RegisterBank.showsOnly_showing _)) ?_
  refine .answers _ _ _ _ _ _ _ (RegisterCall.reads_plainFrame _) (.refuses rfl ?_) ?_
  · intro shown same
    have lengths := congrArg List.length (Except.ok.inj same)
    rw [Command.length_showing] at lengths
    exact absurd lengths (by decide)
  refine .answers _ _ _ _ _ _ _ (RegisterCall.reads_plainFrame _)
    (.measures 0 (value 4) rfl rfl (RegisterBank.showsOnly_showing _)) ?_
  exact .answers _ _ _ _ _ _ _ (RegisterCall.reads_plainFrame _)
    (.reads 0 rfl rfl (RegisterBank.showsOnly_showing _)) (.done _)

theorem extends_calls : Extends 0 calls (List.zipWith outcome calls responses) := by
  intro shown found member
  have first : outcome (.extend 0 (value 1)) (Command.showing once) = .ok (.bytes once.bytes) :=
    outcome_showing _ _
  have second : outcome (.extend 0 (value 4)) (Command.showing twice) = .ok (.bytes twice.bytes) :=
    outcome_showing _ _
  simp only [calls, responses, List.zipWith_cons_cons, List.zip_cons_cons, List.mem_cons,
    Prod.mk.injEq, RegisterCall.extend.injEq, first, second] at member
  rcases member with ⟨_, rfl⟩ | ⟨⟨impossible, _⟩, _⟩ | ⟨⟨impossible, _⟩, _⟩ | ⟨_, rfl⟩ | member
  · exact ⟨_, rfl⟩
  · exact absurd impossible (by decide)
  · exact absurd impossible (by decide)
  · exact ⟨_, rfl⟩
  · simp at member

/-- The register that was extended twice is read, and shows both values; if it showed the same after
them in the other order, two strings would collide. -/
theorem registers_replay_interleaved :
    (∃ outcomes final, (workspace responses [] []).run (calls.map RegisterCall.call) =
        (outcomes, final) ∧
      bank.Serves final.client.link.record
        (((bank.extend 0 (value 1)).extend 1 (value 2)).extend 0 (value 4)) ∧
      Extends 0 calls outcomes ∧
      outcomes[4]? = some (.ok (.bytes
        (Register.replay (value 0) [value 1, value 4]).bytes))) ∧
      (Register.replay (value 0) [value 1, value 4] = Register.replay (value 0) [value 4, value 1] →
        ∃ first second, Sha1.Collision first second) := by
  obtain ⟨evident, follows⟩ := registers_replay
  constructor
  · have ran := run_responses calls responses [] [] rfl
    obtain ⟨_, yields⟩ := follows Script (workspace responses [] []) calls _ _
      (List.zipWith exchange calls responses) bank _ 0 ran rfl serves_calls extends_calls
    obtain ⟨_, _, _, found, _, last, course⟩ := yields
      [.extend 0 (value 1), .extend 1 (value 2), .extend 1 (value 3), .extend 0 (value 4)] (.read 0)
      [] rfl rfl
    have shown : found = .ok (.bytes twice.bytes) :=
      (Option.some.inj last).symm.trans (outcome_showing (.read 0) twice)
    refine ⟨_, _, ran, serves_calls, extends_calls, last.trans ?_⟩
    rw [shown, course.answer_eq _ shown]
    rfl
  · intro same
    rcases evident (value 0) (value 0) [value 1, value 4] [value 4, value 1] rfl same with
      ⟨_, alike⟩ | ⟨first, _, second, _, _, _, collision⟩
    · have bytes := congrArg (fun value => value.bytes.head?) (List.cons.inj alike).1
      exact absurd bytes (by decide)
    · exact ⟨first, second, collision⟩

end Measuring

end Workspace

end TrustedPlatform
