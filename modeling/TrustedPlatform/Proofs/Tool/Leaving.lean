import TrustedPlatform.Proofs.Tool.CleanUp

/-!
# Sessions that a call of the tool leaves behind

A command of the tool opens a session for itself and ends it with its request.  Nothing ends the
session if there is no request, because a part of it cannot be written: `Invocation.leavesWithheld`.
-/

set_option autoImplicit false

namespace TrustedPlatform.Tool

variable {σ : Type} [Channel σ]

def Surroundings.tapped (surroundings : Surroundings σ) : Surroundings (Tapped σ) where
  environment := surroundings.environment
  connect settings := (surroundings.connect settings).map fun channel => ⟨channel, none, []⟩
  files := surroundings.files
  nonces := surroundings.nonces
  rounds := surroundings.rounds

omit [Channel σ] in
theorem Surroundings.channel_tapped (surroundings : Surroundings σ) (settings : Settings)
    (channel : Tapped σ) (met : surroundings.tapped.channel settings = .ok channel) :
    channel.record = [] := by
  unfold Surroundings.channel at met
  split at met
  · cases met
  · unfold tapped at met
    dsimp only at met
    cases connected : surroundings.connect settings with
    | error fault =>
      rw [connected] at met
      cases met
    | ok opened =>
      rw [connected] at met
      cases met
      rfl

/-- A call of the tool that gets a channel is work of a client that sent nothing before. -/
theorem Invocation.run_of_channel (invocation : Invocation) (surroundings : Surroundings σ)
    (channel : Tapped σ) (ran : (invocation.run surroundings.tapped).channel? = some channel) :
    ∃ desk : Desk (Tapped σ), desk.client.link.spoiled = false ∧ desk.client.link.record = [] ∧
      desk.printed = [] ∧ ∃ outcome after,
        (invocation.subcommand.perform surroundings.rounds).run desk = (outcome, after) ∧
        invocation.run surroundings.tapped = ⟨outcome, after.printed.reverse.flatten, after.files,
          some after.client.link.channel⟩ := by
  unfold Invocation.run at ran ⊢
  dsimp only at ran ⊢
  cases read : invocation.settings surroundings.tapped.environment with
  | error failure => simp [read] at ran
  | ok settings =>
    cases met : surroundings.tapped.channel settings with
    | error failure => simp [read, met] at ran
    | ok fresh =>
      refine ⟨⟨Client.fresh fresh surroundings.tapped.nonces settings.attempts.toNat,
        surroundings.tapped.files, []⟩, rfl, surroundings.channel_tapped settings fresh met, rfl,
        _, _, rfl, ?_⟩
      dsimp only
      rw [met]
      rfl

/-- A call of the tool leaves a session open only if a request was withheld. -/
theorem Invocation.onlyLastLeft_run (invocation : Invocation) (surroundings : Surroundings σ)
    (channel : Tapped σ) (ran : (invocation.run surroundings.tapped).channel? = some channel)
    (answered : ∀ exchange ∈ channel.record, exchange.Answered) :
    OnlyLastLeft (Failure.Withheld (invocation.run surroundings.tapped).outcome)
      channel.record := by
  obtain ⟨desk, clean, begun, _, outcome, after, done, report⟩ :=
    invocation.run_of_channel surroundings channel ran
  rw [report] at ran ⊢
  cases ran
  obtain ⟨sent, recorded, kept⟩ :=
    (invocation.subcommand.procedure_perform surroundings.rounds).cleansUp desk outcome after done
  have whole : after.client.link.channel.record = sent := by
    rw [← List.nil_append sent, ← begun]
    exact recorded
  rw [whole] at answered ⊢
  exact (kept clean answered).2

/-- Of the sessions that a call of the tool opens, a module that answers everything and ends what
fails or is used for the last time holds none in the end.  It still holds one only if that one was
opened for a request that was never made up, which is why the call failed. -/
theorem Invocation.leavesWithheld (invocation : Invocation) (surroundings : Surroundings σ)
    (holds : List Exchange → UInt32 → Prop) (ends : EndsSessions holds) (channel : Tapped σ)
    (ran : (invocation.run surroundings.tapped).channel? = some channel)
    (answered : ∀ exchange ∈ channel.record, exchange.Answered) :
    (∀ handle, ¬ holds channel.record handle) ∨
      ∃ handle earlier opening, channel.record = earlier ++ [opening] ∧ opening.Opens handle ∧
        Failure.Withheld (invocation.run surroundings.tapped).outcome handle ∧
        ∀ other, holds channel.record other → other = handle := by
  have onlyLast := invocation.onlyLastLeft_run surroundings channel ran answered
  by_cases held : ∃ handle, holds channel.record handle
  · obtain ⟨handle, holdsIt⟩ := held
    obtain ⟨withheld, earlier, opening, split, opens⟩ :=
      onlyLast handle (ends.leftOpen channel.record handle holdsIt)
    refine Or.inr ⟨handle, earlier, opening, split, opens, withheld, fun other holdsOther => ?_⟩
    obtain ⟨_, before, last, again, opensOther⟩ :=
      onlyLast other (ends.leftOpen channel.record other holdsOther)
    obtain ⟨_, same⟩ := List.append_inj' (again.symm.trans split) rfl
    obtain rfl : last = opening := List.head_eq_of_cons_eq same
    exact opens.unique opensOther
  · exact Or.inl fun handle holdsIt => held ⟨handle, holdsIt⟩

namespace Leaving

def surroundings (answers : List Bytes) : Surroundings Script where
  environment _ := none
  connect _ := .ok (.ofEntries (answers.map .answer))
  files := ⟨[], .root⟩
  nonces := ⟨fun number => .replicate 20 (.ofNat (3 + number)), 0⟩
  rounds := 1

def success (output : Bytes) : Bytes := (Command.success .response ⟨[], output⟩ []).frame

def refusal (code : UInt32) : Bytes :=
  Bytes.word16 0xc4 ++ Bytes.bigEndian 4 10 ++ Bytes.word32 code

def opened (handle : UInt32) : Bytes :=
  success (Bytes.word32 handle ++ (Block.replicate 20 1).bytes)

def opening (handle : UInt32) : Exchange where
  request := SessionKind.openingFrame .oiap (.replicate 20 3)
  answer := .ok (opened handle)

def counting : Invocation := ⟨false, .incrementCounter 5 "secret"⟩

def busyThenRefusing : List Bytes :=
  [opened 7, refusal ResultCode.retry, opened 8, refusal 1]

/-- A command that found the module busy and was refused when it was sent again leaves neither of
its two sessions behind. -/
theorem nothingHeld_of_refusal :
    EndsSessions LeftOpen ∧ ∃ channel first second,
      (counting.run (surroundings busyThenRefusing).tapped).channel? = some channel ∧
      channel.record = [opening 7, first, opening 8, second] ∧
      (∀ exchange ∈ channel.record, exchange.Answered) ∧
      ∀ handle, ¬ LeftOpen channel.record handle := by
  obtain ⟨channel, first, second, ran, recorded, answers⟩ : ∃ channel first second,
      (counting.run (surroundings busyThenRefusing).tapped).channel? = some channel ∧
      channel.record = [opening 7, first, opening 8, second] ∧
      channel.record.map Exchange.answer = busyThenRefusing.map .ok := ⟨_, _, _, rfl, rfl, rfl⟩
  have answered : ∀ exchange ∈ channel.record, exchange.Answered := by
    intro exchange member
    have among : exchange.answer ∈ busyThenRefusing.map .ok := answers ▸ List.mem_map_of_mem member
    obtain ⟨response, _, brought⟩ := List.mem_map.mp among
    exact ⟨response, brought.symm⟩
  refine ⟨endsSessions_leftOpen, channel, first, second, ran, recorded, answered, ?_⟩
  rcases Invocation.leavesWithheld counting _ LeftOpen endsSessions_leftOpen channel ran
    answered with none | ⟨handle, _, _, _, _, withheld, _⟩
  · exact none
  · obtain ⟨_, fault, failed, reason⟩ := withheld
    have refused : (counting.run (surroundings busyThenRefusing).tapped).outcome =
        .error ⟨[.performing .incrementCounter], .module (.refused .incrementCounter 1)⟩ := rfl
    rw [refused] at failed
    cases failed
    rcases reason with ⟨_, same⟩ | same
    · cases same
    · cases same

def creating : Invocation :=
  ⟨false, .createKey storageRootKey ⟨none, none⟩ ⟨some "secret", none⟩ none .signing 4096 "key"⟩

def parent : Entity := keyEntity storageRootKey

def parentOpened : Bytes :=
  success (Bytes.word32 7 ++ (Block.replicate 20 1).bytes ++ (Block.replicate 20 2).bytes)

def parentOpening : Exchange where
  request := SessionKind.openingFrame (.osap parent) (.replicate 20 3)
  answer := .ok parentOpened

theorem parentOpening_opens : parentOpening.Opens 7 :=
  ⟨.osap parent, .wellKnown, .replicate 20 3, _, rfl,
    .osap parent 7 (.replicate 20 1) (.replicate 20 2) rfl, rfl⟩

/-- The template of a key is written after the session for its parent was opened.  A key that is
too large is never asked for, and nothing ends the session. -/
theorem leftOpen_of_oversized :
    EndsSessions LeftOpen ∧ ∃ channel,
      (creating.run (surroundings [parentOpened]).tapped).channel? = some channel ∧
      (∀ exchange ∈ channel.record, exchange.Answered) ∧ LeftOpen channel.record 7 := by
  obtain ⟨channel, ran, recorded⟩ : ∃ channel,
      (creating.run (surroundings [parentOpened]).tapped).channel? = some channel ∧
        channel.record = [parentOpening] := ⟨_, rfl, rfl⟩
  refine ⟨endsSessions_leftOpen, channel, ran, ?_, ?_⟩
  · intro exchange member
    rw [recorded] at member
    obtain rfl := List.mem_singleton.mp member
    exact ⟨_, rfl⟩
  · rw [recorded]
    exact Or.inl ⟨parentOpening_opens, List.forall_mem_nil _⟩

end Leaving

end TrustedPlatform.Tool
