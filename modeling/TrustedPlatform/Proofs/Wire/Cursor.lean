import TrustedPlatform.Proofs.Structure.Malformed
import TrustedPlatform.Proofs.Wire.Grammar

/-!
# The cursor of a reader

A read that succeeds moves past exactly what it yields, and one that fails moves past a truth value
or a size that it could read and no further (`Read.Returns`, `Read.Leaves`).  So a reader stays
within its bytes through any reads, failed ones included (`Read.soundRun_steps`).
-/

set_option autoImplicit false

namespace TrustedPlatform

open TrustedPlatform.Action

/-! ## Where a decoder stops that fails -/

namespace Decoder

variable {α β : Type}

/-- What a decoder that fails has moved past, in view of the bytes that were ahead. -/
def Stops (decoder : Decoder α) (leaves : Bytes → Bytes → Prop) : Prop :=
  ∀ reader fault after, decoder.run reader = (.error fault, after) →
    ∃ passed, leaves passed reader.rest ∧ reader.rest = passed ++ after.rest ∧
      after.position = reader.position + passed.length

/-- A decoder that fails without a move, as it does when too few bytes are ahead. -/
def short (count : Nat) (passed ahead : Bytes) : Prop := passed = [] ∧ ahead.length < count

namespace Stops

theorem mono {decoder : Decoder α} {leaves also : Bytes → Bytes → Prop}
    (stops : decoder.Stops leaves)
    (implied : ∀ passed ahead, leaves passed ahead → also passed ahead) :
    decoder.Stops also := by
  intro reader fault after failed
  obtain ⟨passed, left, moved⟩ := stops reader fault after failed
  exact ⟨passed, implied _ _ left, moved⟩

theorem pure (value : α) : (Pure.pure value : Decoder α).Stops fun _ _ => False := by
  intro reader fault after failed
  cases failed

theorem throw (fault : Fault) : (throw fault : Decoder α).Stops fun passed _ => passed = [] := by
  rintro reader other after ⟨⟩
  exact ⟨[], rfl, rfl, rfl⟩

/-- A sequence stops in its first part, or in the next one, behind what the first part found. -/
theorem bind {first : Decoder α} {next : α → Decoder β} {writes : α → Bytes → Prop}
    {leaves : Bytes → Bytes → Prop} {leavesNext : α → Bytes → Bytes → Prop}
    (reads : first.Reads writes) (firstStops : first.Stops leaves)
    (nextStops : ∀ value, (next value).Stops (leavesNext value)) :
    (first >>= next).Stops fun passed ahead => leaves passed ahead ∨
      ∃ value front back behind, writes value front ∧ leavesNext value back behind ∧
        ahead = front ++ behind ∧ passed = front ++ back := by
  intro reader fault after failed
  rw [Action.run_bind] at failed
  cases found : first.run reader with
  | mk outcome between =>
    rw [found] at failed
    cases outcome with
    | error other =>
      cases failed
      obtain ⟨passed, left, moved⟩ := firstStops reader _ _ found
      exact ⟨passed, Or.inl left, moved⟩
    | ok value =>
      obtain ⟨front, written, split, moved⟩ := (reads _ _ _).mp found
      obtain ⟨back, left, rest, movedOn⟩ := nextStops value between fault after failed
      refine ⟨front ++ back, Or.inr ⟨value, front, back, _, written, left, split, rfl⟩, ?_, ?_⟩
      · rw [split, rest, List.append_assoc]
      · rw [movedOn, moved, List.length_append, Nat.add_assoc]

theorem returning {decoder : Decoder α} {leaves : Bytes → Bytes → Prop}
    (stops : decoder.Stops leaves) (shows : α → β) :
    (decoder >>= fun value => Pure.pure (shows value)).Stops leaves := by
  intro reader fault after failed
  rw [Action.run_bind] at failed
  cases found : decoder.run reader with
  | mk outcome between =>
    rw [found] at failed
    cases outcome with
    | error other =>
      cases failed
      exact stops reader _ _ found
    | ok value => cases failed

theorem take (item : String) (count : Nat) : (Decoder.take item count).Stops (short count) := by
  intro reader fault after failed
  rw [run_take] at failed
  by_cases few : reader.rest.length < count
  · rw [if_pos few] at failed
    cases failed
    exact ⟨[], ⟨rfl, few⟩, rfl, rfl⟩
  · rw [if_neg few] at failed
    cases failed

theorem block (width : Nat) : (Decoder.block width).Stops (short width) := by
  intro reader fault after failed
  by_cases enough : (reader.rest.take width).length = width
  · simp only [Decoder.block, dif_pos enough, Prod.mk.injEq, reduceCtorEq, false_and] at failed
  · simp only [Decoder.block, dif_neg enough, Prod.mk.injEq, Except.error.injEq] at failed
    obtain ⟨_, rfl⟩ := failed
    rw [List.length_take] at enough
    exact ⟨[], ⟨rfl, by omega⟩, rfl, rfl⟩

theorem byte : Decoder.byte.Stops (short 1) := (take _ 1).returning _

theorem word16 : Decoder.word16.Stops (short 2) := (take _ 2).returning _

theorem word32 : Decoder.word32.Stops (short 4) := (take _ 4).returning _

theorem flag : Decoder.flag.Stops fun passed ahead => short 1 passed ahead ∨
    ∃ value, passed = [value] ∧ value ≠ 0 ∧ value ≠ 1 := by
  have chosen : ∀ value : UInt8, (if value = 0 then Pure.pure false
      else if value = 1 then Pure.pure true
      else MonadExcept.throw (.malformed (.notBoolean value)) : Decoder Bool).Stops
        fun passed _ => passed = [] ∧ value ≠ 0 ∧ value ≠ 1 := by
    intro value
    by_cases zero : value = 0
    · rw [if_pos zero]
      exact (pure false).mono fun _ _ => False.elim
    · rw [if_neg zero]
      by_cases one : value = 1
      · rw [if_pos one]
        exact (pure true).mono fun _ _ => False.elim
      · rw [if_neg one]
        exact (throw _).mono fun _ _ none => ⟨none, zero, one⟩
  refine (bind Reads.byte byte chosen).mono ?_
  rintro passed ahead (few | ⟨value, front, back, behind, rfl, ⟨rfl, other⟩, _, rfl⟩)
  · exact Or.inl few
  · exact Or.inr ⟨value, rfl, other⟩

theorem sized : Decoder.sized.Stops fun passed ahead => short 4 passed ahead ∨
    ∃ size : UInt32, passed = Bytes.word32 size ∧ ahead.length < 4 + size.toNat := by
  refine (bind Reads.word32 word32 fun size => take "bytes" size.toNat).mono ?_
  rintro passed ahead (few | ⟨size, front, back, behind, rfl, ⟨rfl, few⟩, rfl, rfl⟩)
  · exact Or.inl few
  · refine Or.inr ⟨size, List.append_nil _, ?_⟩
    rw [List.length_append, Bytes.length_word32]
    omega

theorem sized16 : Decoder.sized16.Stops fun passed ahead => short 2 passed ahead ∨
    ∃ size : UInt16, passed = Bytes.word16 size ∧ ahead.length < 2 + size.toNat := by
  refine (bind Reads.word16 word16 fun size => take "bytes" size.toNat).mono ?_
  rintro passed ahead (few | ⟨size, front, back, behind, rfl, ⟨rfl, few⟩, rfl, rfl⟩)
  · exact Or.inl few
  · refine Or.inr ⟨size, List.append_nil _, ?_⟩
    rw [List.length_append, Bytes.length_word16]
    omega

theorem peek (count : Nat) : (Decoder.peek count).Stops (short count) := by
  intro reader fault after failed
  by_cases few : (reader.rest.take count).length < count
  · simp only [Decoder.peek, if_pos few, Prod.mk.injEq, Except.error.injEq] at failed
    obtain ⟨_, rfl⟩ := failed
    rw [List.length_take] at few
    exact ⟨[], ⟨rfl, by omega⟩, rfl, rfl⟩
  · simp only [Decoder.peek, if_neg few, Prod.mk.injEq, reduceCtorEq, false_and] at failed

theorem finish : Decoder.finish.Stops fun passed ahead => passed = [] ∧ ahead ≠ [] := by
  rintro ⟨position, ahead⟩ fault after failed
  cases ahead with
  | nil => cases failed
  | cons head tail =>
    cases failed
    exact ⟨[], ⟨rfl, List.cons_ne_nil _ _⟩, rfl, rfl⟩

end Stops

end Decoder

/-! ## One read -/

namespace Read

/-- What a read that succeeds yields, by the bytes that it passed and those that were ahead. -/
def Returns (passed ahead : Bytes) : Read → ReadValue → Prop
  | byte, value => ∃ number : UInt8, value = .number number.toNat ∧ passed = [number]
  | flag, value => ∃ truth, value = .flag truth ∧ passed = Bytes.flag truth
  | word16, value => ∃ number : UInt16, value = .number number.toNat ∧ passed = Bytes.word16 number
  | word32, value => ∃ number : UInt32, value = .number number.toNat ∧ passed = Bytes.word32 number
  | block width, value => value = .bytes passed ∧ passed.length = width
  | sized, value => ∃ blob : Bytes, value = .bytes blob ∧ blob.length < Bytes.capacity 4 ∧
    passed = Bytes.bigEndian 4 blob.length ++ blob
  | sized16, value => ∃ blob : Bytes, value = .bytes blob ∧ blob.length < Bytes.capacity 2 ∧
    passed = Bytes.bigEndian 2 blob.length ++ blob
  | rest, value => value = .bytes passed ∧ passed = ahead
  | finish, value => value = .nothing ∧ passed = [] ∧ ahead = []
  | bytes count, value => value = .bytes passed ∧ passed.length = count
  | skip count, value => value = .nothing ∧ passed.length = count
  | peek count, value => passed = [] ∧ ∃ seen : Bytes, value = .bytes seen ∧ seen.length = count ∧
    seen <+: ahead

/-- What a read that fails has passed, and why it failed: a byte that is no truth value, or the size
of more bytes than follow it, and otherwise nothing. -/
def Leaves (passed ahead : Bytes) : Read → Prop
  | byte => Decoder.short 1 passed ahead
  | flag => Decoder.short 1 passed ahead ∨ ∃ value, passed = [value] ∧ value ≠ 0 ∧ value ≠ 1
  | word16 => Decoder.short 2 passed ahead
  | word32 => Decoder.short 4 passed ahead
  | block width => Decoder.short width passed ahead
  | sized => Decoder.short 4 passed ahead ∨
    ∃ size : UInt32, passed = Bytes.word32 size ∧ ahead.length < 4 + size.toNat
  | sized16 => Decoder.short 2 passed ahead ∨
    ∃ size : UInt16, passed = Bytes.word16 size ∧ ahead.length < 2 + size.toNat
  | rest => False
  | finish => passed = [] ∧ ahead ≠ []
  | bytes count => Decoder.short count passed ahead
  | skip count => Decoder.short count passed ahead
  | peek count => Decoder.short count passed ahead

theorem perform_stops (read : Read) : read.perform.Stops fun passed ahead =>
    read.Leaves passed ahead := by
  cases read with
  | byte => exact Decoder.Stops.byte.returning _
  | flag => exact Decoder.Stops.flag.returning _
  | word16 => exact Decoder.Stops.word16.returning _
  | word32 => exact Decoder.Stops.word32.returning _
  | block width => exact (Decoder.Stops.block width).returning _
  | sized => exact Decoder.Stops.sized.returning _
  | sized16 => exact Decoder.Stops.sized16.returning _
  | rest =>
    intro reader fault after failed
    cases failed
  | finish => exact Decoder.Stops.finish.returning _
  | bytes count => exact (Decoder.Stops.take _ count).returning _
  | skip count => exact ((Decoder.Stops.take _ count).returning _).returning _
  | peek count => exact (Decoder.Stops.peek count).returning _

theorem perform_failsOnly (read : Read) : read.perform.FailsOnly Fault.IsMalformed := by
  cases read with
  | byte => exact .bind _ _ .byte fun _ => .pure _
  | flag => exact .bind _ _ .flag fun _ => .pure _
  | word16 => exact .bind _ _ .word16 fun _ => .pure _
  | word32 => exact .bind _ _ .word32 fun _ => .pure _
  | block width => exact .bind _ _ (.block width) fun _ => .pure _
  | sized => exact .bind _ _ .sized fun _ => .pure _
  | sized16 => exact .bind _ _ .sized16 fun _ => .pure _
  | rest => exact .bind _ _ .rest fun _ => .pure _
  | finish => exact .bind _ _ .finish fun _ => .pure _
  | bytes count => exact .bind _ _ (.take _ count) fun _ => .pure _
  | skip count => exact .bind _ _ (.skip count) fun _ => .pure _
  | peek count => exact .bind _ _ (.peek count) fun _ => .pure _

theorem returns_of_reads {α : Type} {decoder : Decoder α} {writes : α → Bytes → Prop}
    (reads : decoder.Reads writes) (shows : α → ReadValue) (reader after : Reader)
    (value : ReadValue)
    (ran : (decoder >>= fun found => pure (shows found)).run reader = (.ok value, after)) :
    ∃ passed, (∃ found, writes found passed ∧ value = shows found) ∧
      reader.rest = passed ++ after.rest ∧ after.position = reader.position + passed.length := by
  obtain ⟨found, between, ranFirst, shown⟩ := (Action.bind_eq_ok_iff _ _ _ _ _).mp ran
  rw [Action.run_pure] at shown
  cases shown
  obtain ⟨passed, written, moved⟩ := (reads _ _ _).mp ranFirst
  exact ⟨passed, ⟨found, written, rfl⟩, moved⟩

theorem returns_of_run (read : Read) (reader after : Reader) (value : ReadValue)
    (ran : read.perform.run reader = (.ok value, after)) :
    ∃ passed, read.Returns passed reader.rest value ∧ reader.rest = passed ++ after.rest ∧
      after.position = reader.position + passed.length := by
  cases read with
  | byte =>
    obtain ⟨passed, ⟨found, written, same⟩, moved⟩ := returns_of_reads .byte _ _ _ _ ran
    exact ⟨passed, ⟨found, same, written⟩, moved⟩
  | flag =>
    obtain ⟨passed, ⟨found, written, same⟩, moved⟩ := returns_of_reads .flag _ _ _ _ ran
    exact ⟨passed, ⟨found, same, written⟩, moved⟩
  | word16 =>
    obtain ⟨passed, ⟨found, written, same⟩, moved⟩ := returns_of_reads .word16 _ _ _ _ ran
    exact ⟨passed, ⟨found, same, written⟩, moved⟩
  | word32 =>
    obtain ⟨passed, ⟨found, written, same⟩, moved⟩ := returns_of_reads .word32 _ _ _ _ ran
    exact ⟨passed, ⟨found, same, written⟩, moved⟩
  | block width =>
    obtain ⟨_, ⟨field, rfl, rfl⟩, moved⟩ := returns_of_reads (.block width) _ _ _ _ ran
    exact ⟨field.bytes, ⟨rfl, field.length_bytes⟩, moved⟩
  | sized =>
    obtain ⟨passed, ⟨found, ⟨fits, written⟩, same⟩, moved⟩ := returns_of_reads .sized _ _ _ _ ran
    exact ⟨passed, ⟨found, same, fits, written⟩, moved⟩
  | sized16 =>
    obtain ⟨passed, ⟨found, ⟨fits, written⟩, same⟩, moved⟩ := returns_of_reads .sized16 _ _ _ _ ran
    exact ⟨passed, ⟨found, same, fits, written⟩, moved⟩
  | rest =>
    cases ran
    exact ⟨reader.rest, ⟨rfl, rfl⟩, (List.append_nil _).symm, rfl⟩
  | finish =>
    obtain ⟨_, between, ended, shown⟩ := (Action.bind_eq_ok_iff _ _ _ _ _).mp ran
    obtain ⟨none, rfl⟩ := (Decoder.run_finish_eq_ok_iff _ _).mp ended
    rw [Action.run_pure] at shown
    cases shown
    exact ⟨[], ⟨rfl, rfl, none⟩, rfl, rfl⟩
  | bytes count =>
    obtain ⟨passed, ⟨_, ⟨exact, rfl⟩, same⟩, moved⟩ :=
      returns_of_reads (.take _ count) _ _ _ _ ran
    exact ⟨passed, ⟨same, exact⟩, moved⟩
  | skip count =>
    obtain ⟨_, between, skipped, shown⟩ := (Action.bind_eq_ok_iff _ _ _ _ _).mp ran
    rw [Action.run_pure] at shown
    cases shown
    obtain ⟨found, between, taken, shown⟩ := (Action.bind_eq_ok_iff _ _ _ _ _).mp skipped
    rw [Action.run_pure] at shown
    cases shown
    obtain ⟨passed, ⟨exact, rfl⟩, moved⟩ := (Decoder.Reads.take _ count _ _ _).mp taken
    exact ⟨passed, ⟨rfl, exact⟩, moved⟩
  | peek count =>
    obtain ⟨seen, between, seeing, shown⟩ := (Action.bind_eq_ok_iff _ _ _ _ _).mp ran
    rw [Action.run_pure] at shown
    cases shown
    by_cases few : (reader.rest.take count).length < count
    · simp only [Decoder.peek, if_pos few, Prod.mk.injEq, reduceCtorEq, false_and] at seeing
    · simp only [Decoder.peek, if_neg few, Prod.mk.injEq, Except.ok.injEq] at seeing
      obtain ⟨rfl, rfl⟩ := seeing
      have enough : (reader.rest.take count).length = count :=
        Nat.le_antisymm (List.length_take_le _ _) (Nat.not_lt.mp few)
      exact ⟨[], ⟨rfl, _, rfl, enough, List.take_prefix _ _⟩, rfl, rfl⟩

end Read

/-! ## Reads one after the other -/

/-- A reader that stands somewhere in a byte string. -/
structure Reader.Within (data : Bytes) (reader : Reader) : Prop where
  bound : reader.position ≤ data.length
  rest : reader.rest = data.drop reader.position

theorem Reader.within_ofBytes (data : Bytes) : (Reader.ofBytes data).Within data :=
  ⟨Nat.zero_le _, rfl⟩

theorem Reader.Within.total {data : Bytes} {reader : Reader} (within : reader.Within data) :
    reader.position + reader.remaining = data.length := by
  have bound := within.bound
  rw [remaining, within.rest, List.length_drop]
  omega

/-- The bytes that a reader has passed are those between where it was and where it is. -/
theorem Reader.Within.advance {data passed : Bytes} {before after : Reader}
    (within : before.Within data) (split : before.rest = passed ++ after.rest)
    (moved : after.position = before.position + passed.length) :
    after.Within data ∧ (data.take after.position).drop before.position = passed := by
  have total := within.total
  rw [remaining, split, List.length_append] at total
  have ahead : data.drop before.position = passed ++ after.rest := within.rest.symm.trans split
  refine ⟨⟨by omega, ?_⟩, ?_⟩
  · rw [moved, ← List.drop_drop, ahead, List.drop_left]
  · rw [moved, List.drop_take, ahead, Nat.add_sub_cancel_left, List.take_left]

/-- A read that was made: where it began, what came of it, and where it ended. -/
structure ReadStep where
  read : Read
  before : Reader
  outcome : Except Fault ReadValue
  after : Reader

namespace ReadStep

def passed (data : Bytes) (step : ReadStep) : Bytes :=
  (data.take step.after.position).drop step.before.position

/-- What is sound about a read of a byte string. -/
structure Sound (data : Bytes) (step : ReadStep) : Prop where
  forward : step.before.position ≤ step.after.position
  bound : step.after.position ≤ data.length
  total : step.after.position + step.after.remaining = data.length
  returns : ∀ value, step.outcome = .ok value →
    step.read.Returns (step.passed data) (data.drop step.before.position) value
  leaves : ∀ fault, step.outcome = .error fault → fault.IsMalformed ∧
    step.read.Leaves (step.passed data) (data.drop step.before.position)
  -- To peek, or to ask for the end, does not move the reader.
  stays : (step.read = .finish ∨ ∃ count, step.read = .peek count) →
    step.after.position = step.before.position

end ReadStep

namespace Read

def steps (reader : Reader) : List Read → List ReadStep
  | [] => []
  | read :: later =>
    let (outcome, after) := read.perform.run reader
    ⟨read, reader, outcome, after⟩ :: steps after later

theorem sound_of_run (data : Bytes) (read : Read) (before after : Reader)
    (outcome : Except Fault ReadValue) (within : before.Within data)
    (ran : read.perform.run before = (outcome, after)) :
    after.Within data ∧ ReadStep.Sound data ⟨read, before, outcome, after⟩ := by
  have moves : ∃ passed, before.rest = passed ++ after.rest ∧
      after.position = before.position + passed.length ∧
      (∀ value, outcome = .ok value → read.Returns passed before.rest value) ∧
      (∀ fault, outcome = .error fault → fault.IsMalformed ∧ read.Leaves passed before.rest) := by
    cases outcome with
    | ok value =>
      obtain ⟨passed, returns, split, moved⟩ := read.returns_of_run before after value ran
      exact ⟨passed, split, moved, fun _ same => by cases same; exact returns, nofun⟩
    | error fault =>
      obtain ⟨passed, leaves, split, moved⟩ := read.perform_stops before fault after ran
      have malformed := read.perform_failsOnly before fault (by rw [ran])
      exact ⟨passed, split, moved, nofun, fun _ same => by cases same; exact ⟨malformed, leaves⟩⟩
  obtain ⟨passed, split, moved, returns, leaves⟩ := moves
  obtain ⟨ended, between⟩ := within.advance split moved
  rw [within.rest] at returns leaves
  have passes : ReadStep.passed data ⟨read, before, outcome, after⟩ = passed := between
  refine ⟨ended, by rw [moved]; exact Nat.le_add_right _ _, ended.bound, ended.total, ?_, ?_, ?_⟩
  · rw [passes]
    exact returns
  · rw [passes]
    exact leaves
  · intro stays
    have still : passed = [] := by
      cases outcome with
      | ok value =>
        have found := returns value rfl
        rcases stays with rfl | ⟨count, rfl⟩
        · exact found.2.1
        · exact found.1
      | error fault =>
        have left := (leaves fault rfl).2
        rcases stays with rfl | ⟨count, rfl⟩
        · exact left.1
        · exact left.1
    show after.position = before.position
    rw [moved, still]
    rfl

/-- What is sound about reads one after the other. -/
structure SoundRun (data : Bytes) (steps : List ReadStep) : Prop where
  each : ∀ step ∈ steps, step.Sound data
  forward : steps.Pairwise fun earlier later => earlier.after.position ≤ later.before.position

/-- The step lemma carried through a run, which may begin anywhere within the bytes. -/
theorem soundRun_of_within (data : Bytes) (reads : List Read) (reader : Reader)
    (within : reader.Within data) :
    SoundRun data (steps reader reads) ∧
      ∀ step ∈ steps reader reads, reader.position ≤ step.before.position := by
  induction reads generalizing reader with
  | nil =>
    exact ⟨⟨fun _ among => absurd among List.not_mem_nil, .nil⟩,
      fun _ among => absurd among List.not_mem_nil⟩
  | cons read reads inductionHypothesis =>
    obtain ⟨ended, sound⟩ := sound_of_run data read reader _ _ within rfl
    obtain ⟨run, behind⟩ := inductionHypothesis _ ended
    refine ⟨⟨?_, .cons behind run.forward⟩, ?_⟩
    · rintro step (_ | ⟨_, later⟩)
      · exact sound
      · exact run.each step later
    · rintro step (_ | ⟨_, later⟩)
      · exact Nat.le_refl _
      · exact Nat.le_trans sound.forward (behind step later)

theorem soundRun_steps (data : Bytes) (reads : List Read) :
    SoundRun data (steps (.ofBytes data) reads) :=
  (soundRun_of_within data reads _ (Reader.within_ofBytes data)).1

end Read

end TrustedPlatform
