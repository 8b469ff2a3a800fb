import TrustedPlatform.Proofs.CommandLine.Operands
import TrustedPlatform.Tool.Words

/-!
# How registers are asked for

On the command line one register is asked for by any text that is read as its number, and all of
them by none (`AsksFor`).  Either way the tool is told to show just these registers
(`Tool.Invocation.ofWords_of_asksFor`).
-/

set_option autoImplicit false

namespace TrustedPlatform

open CommandLine

theorem CommandLine.Word.ofText_of_number (text : String) (register : UInt32)
    (read : Operand.number text = .ok register) : Word.ofText text = .plain text := by
  have undashed : ∀ rest, text.toList ≠ '-' :: rest := by
    intro rest dashed
    rcases (Operand.number_eq_ok_iff text register).mp read with
      ⟨mark, isMark, behind, marked, _⟩ | ⟨sign, among, digits, whole, denotes⟩
    · obtain ⟨character, rfl, _⟩ := Operand.exists_of_mem_marks mark isMark
      cases marked.symm.trans dashed
    · rcases List.mem_pair.mp among with rfl | rfl
      · rw [List.nil_append, dashed] at whole
        rw [← whole] at denotes
        obtain ⟨value, isDigit⟩ := denotes.isDigit '-' List.mem_cons_self
        exact absurd isDigit.mem (by decide)
      · cases whole.symm.trans dashed
  unfold ofText
  split
  · rename_i dashed
    exact absurd dashed (undashed _)
  · rename_i dashed
    exact absurd dashed (undashed _)
  · rename_i dashed
    exact absurd dashed (undashed _)
  · rfl

namespace CommandLine.Grammar

variable {α β : Type}

theorem build_map (f : α → β) (grammar : Grammar α) (given : Given) (value : α)
    (built : grammar.build given = .ok value) : (f <$> grammar).build given = .ok (f value) := by
  show (grammar.build given).map f = _
  rw [built]
  rfl

theorem build_seq (first : Grammar (α → β)) (second : Grammar α) (given : Given) (f : α → β)
    (value : α) (builtFirst : first.build given = .ok f)
    (builtSecond : second.build given = .ok value) :
    (first <*> second).build given = .ok (f value) := by
  simp only [Seq.seq, builtFirst, builtSecond]
  rfl

end CommandLine.Grammar

namespace Tool

namespace Words

def registerParameter : Parameter := Grammar.parameter "pcr" none .single number

def registersShown : Grammar Subcommand :=
  (fun subcommand (_ : Bool) => subcommand) <$>
    (.readRegisters <$> Grammar.optional "pcr" none number) <*> verbose

variable (text : String) (register : UInt32) (read : Operand.number text = .ok register)

include read

theorem number_of_operand : number text = .ok register := by
  unfold number Reading.operand
  rw [read]
  rfl

theorem enter_register : Given.enter .empty registerParameter [text] = .ok ⟨[("pcr", [text])]⟩ := by
  have checked : registerParameter.check text = .ok () := by
    show (number text).map (fun _ => ()) = .ok ()
    rw [number_of_operand text register read]
    rfl
  have once : ([text].flatMap (Given.valuesOf registerParameter.form)).forM
      registerParameter.check = .ok () := by
    show (registerParameter.check text >>= fun _ => pure ()) = .ok ()
    rw [checked]
    rfl
  show Given.add .empty registerParameter [text] = _
  simp only [Given.add, once]
  rfl

theorem readAll_register :
    Progress.start.readAll (Grammar.helpParameter :: registersShown.parameters) ["--pcr", text] =
      .ok ⟨[("pcr", [text])]⟩ := by
  have waiting : Progress.start.readAll (Grammar.helpParameter :: registersShown.parameters)
      ["--pcr", text] =
        Progress.readAll (Grammar.helpParameter :: registersShown.parameters)
          ⟨.empty, some ⟨registerParameter, none⟩⟩ [text] := rfl
  rw [waiting, Progress.readAll, Word.ofText_of_number text register read]
  exact enter_register text register read

theorem build_register :
    registersShown.build ⟨[("pcr", [text])]⟩ = .ok (.readRegisters (some register)) := by
  have found : (Grammar.optional "pcr" none number).build ⟨[("pcr", [text])]⟩ =
      .ok (some register) := by
    show (some text).mapM number = _
    rw [Option.mapM_some, number_of_operand text register read]
    rfl
  exact Grammar.build_seq _ _ _ _ _ (Grammar.build_map _ _ _ _ (Grammar.build_map _ _ _ _ found))
    rfl

end Words

theorem ofWords_register (text : String) (register : UInt32)
    (read : Operand.number text = .ok register) :
    Invocation.ofWords ["pcrread", "--pcr", text] =
      .ok ⟨false, .readRegisters (some register)⟩ := by
  have gathered : Words.registersShown.read ["--pcr", text] =
      .ok (⟨[("pcr", [text])]⟩, .readRegisters (some register)) := by
    unfold Grammar.read
    rw [Words.readAll_register text register read]
    show (Words.registersShown.build ⟨[("pcr", [text])]⟩ >>= fun value => pure (_, value)) = _
    rw [Words.build_register text register read]
    rfl
  have shape : Invocation.ofWords ["pcrread", "--pcr", text] =
      ((Words.registersShown.read ["--pcr", text]).map
        fun found => (Given.empty ++ found.1, found.2)).map
          fun found => ⟨found.1.has "verbose", found.2⟩ := rfl
  rw [shape, gathered]
  rfl

/-- The words that ask for one register, or for all of them. -/
inductive AsksFor : Option UInt32 → List String → Prop where
  | all : AsksFor none ["pcrread"]
  | one (text : String) (register : UInt32) (read : Operand.number text = .ok register) :
    AsksFor (some register) ["pcrread", "--pcr", text]

theorem AsksFor.toString (register : UInt32) :
    AsksFor (some register) ["pcrread", "--pcr", ToString.toString register] :=
  .one _ register (Operand.number_toString register)

theorem Invocation.ofWords_of_asksFor (register? : Option UInt32) (words : List String)
    (asks : AsksFor register? words) :
    ofWords words = .ok ⟨false, .readRegisters register?⟩ := by
  cases asks with
  | all => rfl
  | one text register read => exact ofWords_register text register read

end Tool

end TrustedPlatform
