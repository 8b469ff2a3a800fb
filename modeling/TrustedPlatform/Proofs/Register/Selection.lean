import Mathlib.Data.List.Basic
import Mathlib.Data.List.GetD
import Mathlib.Data.Nat.Bitwise
import TrustedPlatform.Proofs.Structure.Written

/-!
# What a selection denotes

A bitmap marks a register by one bit (`RegisterSelection.marks`), and the marked registers are
listed in ascending order (`indices_eq`, `ListsMarked`).  The selection of some registers is as wide
as they need and marks exactly these, in whatever order and however often they were given
(`ofIndices_eq`, `Covers`): `RegisterSelection.denotes`.
-/

set_option autoImplicit false

namespace TrustedPlatform.RegisterSelection

/-! ## Bits of a byte -/

theorem toNat_bit : ∀ bit < 8, ((1 : UInt8) <<< UInt8.ofNat bit).toNat = 2 ^ bit := by decide

theorem and_bit_ne_zero_iff (byte : UInt8) (bit : Nat) (inside : bit < 8) :
    byte &&& (1 <<< UInt8.ofNat bit) ≠ 0 ↔ byte.toNat.testBit bit = true := by
  rw [Ne, ← UInt8.toNat_inj, UInt8.toNat_and, toNat_bit bit inside, Nat.and_two_pow]
  cases byte.toNat.testBit bit with
  | false => simp
  | true => simp

theorem testBit_or_bit (byte : UInt8) (bit other : Nat) (inside : bit < 8) :
    (byte ||| (1 <<< UInt8.ofNat bit)).toNat.testBit other =
      (byte.toNat.testBit other || decide (bit = other)) := by
  rw [UInt8.toNat_or, toNat_bit bit inside, Nat.testBit_or, Nat.testBit_two_pow]

/-- Setting the bits of a byte that some test holds of sets these and no other. -/
theorem testBit_setBits (holds : Nat → Bool) (bits : List Nat) (inside : ∀ bit ∈ bits, bit < 8)
    (byte : UInt8) (other : Nat) :
    (bits.foldl (fun byte bit =>
        if holds bit then byte ||| (1 <<< UInt8.ofNat bit) else byte) byte).toNat.testBit other =
      (byte.toNat.testBit other || (decide (other ∈ bits) && holds other)) := by
  induction bits generalizing byte with
  | nil => simp
  | cons bit bits inductionHypothesis =>
    rw [List.foldl_cons, inductionHypothesis (fun among member =>
      inside among (List.mem_cons_of_mem _ member))]
    by_cases chosen : holds bit = true
    · rw [if_pos chosen, testBit_or_bit byte bit other (inside bit List.mem_cons_self)]
      by_cases same : bit = other
      · subst same
        simp [chosen]
      · simp [same, Ne.symm same]
    · rw [if_neg chosen]
      by_cases same : other = bit
      · subst same
        simp [chosen]
      · simp [same]

theorem testBit_byteOf (registers : List UInt32) (place bit : Nat) (inside : bit < 8) :
    (byteOf registers place).toNat.testBit bit =
      registers.any fun register => register.toNat == place * 8 + bit := by
  unfold byteOf
  rw [testBit_setBits _ _ (fun among member => List.mem_range.mp member)]
  simp [inside]

/-! ## What a bitmap marks, and what is listed -/

/-- The bit of a register is set: bit `register % 8` of byte `register / 8`. -/
def marks (selection : RegisterSelection) (register : Nat) : Bool :=
  (selection.bitmap.getD (register / 8) 0).toNat.testBit (register % 8)

def size (selection : RegisterSelection) : Nat :=
  (List.range (selection.bitmap.length * 8)).countP selection.marks

theorem lt_of_marks (selection : RegisterSelection) (register : Nat)
    (marked : selection.marks register = true) : register < selection.bitmap.length * 8 := by
  apply Classical.byContradiction
  intro beyond
  have outside : selection.bitmap.length ≤ register / 8 := by omega
  rw [marks, List.getD_eq_default _ _ outside] at marked
  simp at marked

theorem row_eq (byte : UInt8) (place : Nat) :
    ((List.range 8).filterMap fun bit =>
        if byte &&& (1 <<< UInt8.ofNat bit) ≠ 0 then some (UInt32.ofNat (place * 8 + bit))
        else none) =
      ((List.range 8).filter fun bit => byte.toNat.testBit bit).map fun bit =>
        UInt32.ofNat (place * 8 + bit) := by
  rw [← List.filterMap_eq_map, List.filterMap_filter]
  refine List.filterMap_congr fun bit member => ?_
  have inside := List.mem_range.mp member
  by_cases set : byte.toNat.testBit bit = true
  · rw [if_pos ((and_bit_ne_zero_iff byte bit inside).mpr set)]
    simp [set]
  · rw [if_neg fun masked => set ((and_bit_ne_zero_iff byte bit inside).mp masked)]
    simp [set]

theorem marks_append_of_lt (bitmap : Bytes) (last : UInt8) (register : Nat)
    (early : register < bitmap.length * 8) :
    marks ⟨bitmap ++ [last]⟩ register = marks ⟨bitmap⟩ register := by
  have inside : register / 8 < bitmap.length := by omega
  unfold marks
  rw [List.getD_append _ _ _ _ inside]

theorem marks_append_last (bitmap : Bytes) (last : UInt8) (bit : Nat) (inside : bit < 8) :
    marks ⟨bitmap ++ [last]⟩ (bitmap.length * 8 + bit) = last.toNat.testBit bit := by
  have place : (bitmap.length * 8 + bit) / 8 = bitmap.length := by omega
  have rest : (bitmap.length * 8 + bit) % 8 = bit := by omega
  unfold marks
  dsimp only
  rw [place, rest, List.getD_append_right _ _ _ _ (Nat.le_refl _), Nat.sub_self]
  rfl

theorem indices_eq (selection : RegisterSelection) :
    selection.indices =
      ((List.range (selection.bitmap.length * 8)).filter selection.marks).map UInt32.ofNat := by
  obtain ⟨bitmap⟩ := selection
  refine Bytes.induction_from_end (motive := fun bitmap => indices ⟨bitmap⟩ =
    ((List.range (bitmap.length * 8)).filter (marks ⟨bitmap⟩)).map UInt32.ofNat) rfl ?_ bitmap
  intro bitmap last inductionHypothesis
  have before : (List.range (bitmap.length * 8)).filter (marks ⟨bitmap ++ [last]⟩) =
      (List.range (bitmap.length * 8)).filter (marks ⟨bitmap⟩) :=
    List.filter_congr fun register member =>
      marks_append_of_lt bitmap last register (List.mem_range.mp member)
  have behind : (List.range 8).filter (marks ⟨bitmap ++ [last]⟩ ∘ (bitmap.length * 8 + ·)) =
      (List.range 8).filter fun bit => last.toNat.testBit bit :=
    List.filter_congr fun bit member =>
      marks_append_last bitmap last bit (List.mem_range.mp member)
  have longer : (bitmap ++ [last]).length * 8 = bitmap.length * 8 + 8 := by
    rw [List.length_append, List.length_singleton]
    omega
  have listed : indices ⟨bitmap ++ [last]⟩ = indices ⟨bitmap⟩ ++
      ((List.range 8).filter fun bit => last.toNat.testBit bit).map fun bit =>
        UInt32.ofNat (bitmap.length * 8 + bit) := by
    unfold indices
    rw [List.zipIdx_append, List.flatMap_append, ← row_eq]
    simp
  rw [listed, inductionHypothesis, longer, List.range_add, List.filter_append, before,
    List.filter_map, behind, List.map_append, List.map_map]
  rfl

theorem length_indices (selection : RegisterSelection) :
    selection.indices.length = selection.size := by
  rw [indices_eq, List.length_map, ← List.countP_eq_length_filter]
  rfl

/-- Exactly the marked registers are listed, in ascending order. -/
structure ListsMarked (selection : RegisterSelection) : Prop where
  ascending : selection.indices.Pairwise (· < ·)
  listed : ∀ register, register ∈ selection.indices ↔ selection.marks register.toNat = true

/-- So it is as long as the number of every bit is the number of a register. -/
theorem listsMarked (selection : RegisterSelection) (bounded : selection.bitmap.length < 2 ^ 29) :
    selection.ListsMarked := by
  have whole : ∀ place, place < selection.bitmap.length * 8 →
      (UInt32.ofNat place).toNat = place := by
    intro place inside
    rw [UInt32.toNat_ofNat', Nat.mod_eq_of_lt (by omega)]
  constructor
  · rw [indices_eq, List.pairwise_map]
    refine (List.pairwise_lt_range.filter _).imp_of_mem fun early late less => ?_
    rw [UInt32.lt_iff_toNat_lt, whole _ (List.mem_range.mp (List.mem_filter.mp early).1),
      whole _ (List.mem_range.mp (List.mem_filter.mp late).1)]
    exact less
  · intro register
    rw [indices_eq, List.mem_map]
    constructor
    · rintro ⟨place, member, rfl⟩
      obtain ⟨inside, marked⟩ := List.mem_filter.mp member
      rw [whole place (List.mem_range.mp inside)]
      exact marked
    · intro marked
      have inside := selection.lt_of_marks _ marked
      exact ⟨register.toNat, List.mem_filter.mpr ⟨List.mem_range.mpr inside, marked⟩,
        UInt32.ofNat_toNat⟩

/-! ## The selection of some registers -/

def largest (registers : List UInt32) : UInt32 := registers.foldl max 0

def widthFor (registers : List UInt32) : Nat :=
  if registers.all fun register => register < 24 then 3 else 4

def selecting (registers : List UInt32) : RegisterSelection :=
  ⟨(List.range (widthFor registers)).map (byteOf registers)⟩

theorem all_lt_iff (registers : List UInt32) (bound : UInt32) :
    (registers.all fun register => register < bound) = true ↔
      ∀ register ∈ registers, register < bound := by
  simp only [List.all_eq_true, decide_eq_true_eq]

theorem max_lt_iff (first second bound : UInt32) :
    max first second < bound ↔ first < bound ∧ second < bound := by
  have unfolded : max first second = if first ≤ second then second else first := rfl
  rw [unfolded]
  split
  · rename_i less
    exact ⟨fun below => ⟨UInt32.lt_of_le_of_lt less below, below⟩, And.right⟩
  · rename_i notLess
    have more := UInt32.not_le.mp notLess
    exact ⟨fun below => ⟨below, UInt32.lt_trans more below⟩, And.left⟩

theorem largest_lt_iff (registers : List UInt32) (bound : UInt32) (positive : 0 < bound) :
    largest registers < bound ↔ ∀ register ∈ registers, register < bound := by
  have bounded : ∀ least : UInt32, registers.foldl max least < bound ↔
      least < bound ∧ ∀ register ∈ registers, register < bound := by
    induction registers with
    | nil => simp
    | cons register registers inductionHypothesis =>
      intro least
      rw [List.foldl_cons, inductionHypothesis, max_lt_iff, and_assoc, List.forall_mem_cons]
  rw [largest, bounded, and_iff_right positive]

/-- Three bytes hold the first twenty-four registers, and a fourth one the next eight. -/
theorem widthFor_eq (registers : List UInt32) (fit : ∀ register ∈ registers, register < 32) :
    max ((largest registers).toNat / 8 + 1) 3 = widthFor registers := by
  have below := UInt32.lt_iff_toNat_lt.mp ((largest_lt_iff registers 32 (by decide)).mpr fit)
  have thirtyTwo : (32 : UInt32).toNat = 32 := rfl
  have twentyFour : (24 : UInt32).toNat = 24 := rfl
  unfold widthFor
  by_cases narrow : ∀ register ∈ registers, register < 24
  · have least := UInt32.lt_iff_toNat_lt.mp ((largest_lt_iff registers 24 (by decide)).mpr narrow)
    rw [if_pos ((all_lt_iff registers 24).mpr narrow)]
    omega
  · have most : ¬ (largest registers).toNat < 24 := fun less =>
      narrow ((largest_lt_iff registers 24 (by decide)).mp (UInt32.lt_iff_toNat_lt.mpr less))
    rw [if_neg (mt (all_lt_iff registers 24).mp narrow)]
    omega

theorem widthFor_le (registers : List UInt32) : widthFor registers ≤ widestSelection := by
  unfold widthFor
  split <;> decide

/-- Registers are selected exactly if all of them are below thirty-two; otherwise the largest one is
what is wrong. -/
theorem ofIndices_eq (registers : List UInt32) :
    ofIndices registers =
      if registers.all fun register => register < 32 then .ok (selecting registers)
      else .error (.encoding (.registerOutOfRange (largest registers))) := by
  have shape : ofIndices registers =
      if widestSelection < max ((largest registers).toNat / 8 + 1) 3 then
        .error (.encoding (.registerOutOfRange (largest registers)))
      else .ok ⟨(List.range (max ((largest registers).toNat / 8 + 1) 3)).map (byteOf registers)⟩ :=
    rfl
  rw [shape]
  by_cases fit : ∀ register ∈ registers, register < 32
  · rw [widthFor_eq registers fit, if_neg (Nat.not_lt.mpr (widthFor_le registers)),
      if_pos ((all_lt_iff registers 32).mpr fit), selecting]
  · have beyond : ¬ (largest registers).toNat < 32 := fun less =>
      fit ((largest_lt_iff registers 32 (by decide)).mp (UInt32.lt_iff_toNat_lt.mpr less))
    have tooWide : widestSelection < max ((largest registers).toNat / 8 + 1) 3 := by
      unfold widestSelection
      omega
    rw [if_pos tooWide, if_neg (mt (all_lt_iff registers 32).mp fit)]

theorem only_ofIndices (registers : List UInt32) :
    Fault.Only Fault.IsEncoding (ofIndices registers) := by
  rw [ofIndices_eq]
  split
  · exact .ok _
  · exact .error _ ⟨_, rfl⟩

theorem ofIndices_eq_ok_iff (registers : List UInt32) (selection : RegisterSelection) :
    ofIndices registers = .ok selection ↔
      (∀ register ∈ registers, register < 32) ∧ selection = selecting registers := by
  rw [ofIndices_eq]
  by_cases fit : ∀ register ∈ registers, register < 32
  · rw [if_pos ((all_lt_iff registers 32).mpr fit), and_iff_right fit, Except.ok.injEq]
    exact eq_comm
  · rw [if_neg (mt (all_lt_iff registers 32).mp fit)]
    constructor
    · intro selected
      cases selected
    · rintro ⟨fits, _⟩
      exact absurd fits fit

theorem div_lt_widthFor (registers : List UInt32) (fit : ∀ register ∈ registers, register < 32)
    (register : UInt32) (member : register ∈ registers) :
    register.toNat / 8 < widthFor registers := by
  have below := UInt32.lt_iff_toNat_lt.mp (fit register member)
  have thirtyTwo : (32 : UInt32).toNat = 32 := rfl
  have twentyFour : (24 : UInt32).toNat = 24 := rfl
  unfold widthFor
  split
  · rename_i narrow
    have less := UInt32.lt_iff_toNat_lt.mp ((all_lt_iff registers 24).mp narrow register member)
    omega
  · omega

theorem length_selecting (registers : List UInt32) :
    (selecting registers).bitmap.length = widthFor registers := by
  rw [selecting, List.length_map, List.length_range]

theorem marks_selecting (registers : List UInt32) (fit : ∀ register ∈ registers, register < 32)
    (register : UInt32) :
    (selecting registers).marks register.toNat = true ↔ register ∈ registers := by
  have holds : ∀ place, place < widthFor registers →
      ((selecting registers).bitmap.getD place 0) = byteOf registers place := by
    intro place inside
    rw [selecting, List.getD_eq_getElem _ _ (by simpa using inside)]
    simp
  constructor
  · intro marked
    have inside := lt_of_marks _ _ marked
    rw [length_selecting] at inside
    rw [marks, holds _ (by omega), testBit_byteOf _ _ _ (by omega), List.any_eq_true] at marked
    obtain ⟨other, member, same⟩ := marked
    have number : other.toNat = register.toNat := by
      rw [eq_of_beq same]
      omega
    rw [← UInt32.toNat_inj.mp number]
    exact member
  · intro member
    have inside := div_lt_widthFor registers fit register member
    rw [marks, holds _ inside, testBit_byteOf _ _ _ (by omega), List.any_eq_true]
    refine ⟨register, member, beq_iff_eq.mpr ?_⟩
    omega

/-- A selection is one of some registers: it lists them in ascending order and is as wide as they
need, and it comes back from what is sent. -/
structure Covers (selection : RegisterSelection) (registers : List UInt32) : Prop where
  ascending : selection.indices.Pairwise (· < ·)
  listed : ∀ register, register ∈ selection.indices ↔ register ∈ registers
  width : selection.bitmap.length = if registers.all fun register => register < 24 then 3 else 4
  returns : ∃ bytes, selection.encode = .ok bytes ∧ decode.complete bytes = .ok selection

theorem covers_selecting (registers : List UInt32) (fit : ∀ register ∈ registers, register < 32) :
    (selecting registers).Covers registers := by
  have width := length_selecting registers
  have narrow : (selecting registers).bitmap.length ≤ 4 := width ▸ widthFor_le registers
  have lists := (selecting registers).listsMarked (Nat.lt_of_le_of_lt narrow (by decide))
  have sent : (selecting registers).encode = .ok (selecting registers).written := by
    refine (sends _).ok fun part among => ?_
    obtain rfl := List.mem_singleton.mp among
    exact Nat.not_lt.mpr narrow
  have read : decode.complete (selecting registers).written = .ok (selecting registers) := by
    refine (reads.complete_iff _ _).mpr ⟨fun part among => ?_, rfl⟩
    obtain rfl := List.mem_singleton.mp among
    exact Nat.le_trans narrow (by decide)
  refine ⟨lists.ascending, fun register => ?_, width, _, sent, read⟩
  rw [lists.listed, marks_selecting registers fit]

theorem selecting_congr (registers others : List UInt32)
    (same : ∀ register, register ∈ others ↔ register ∈ registers) :
    selecting others = selecting registers := by
  have bytes : ∀ place, byteOf others place = byteOf registers place := by
    intro place
    have tests : ∀ bit, (others.any fun register => register.toNat == place * 8 + bit) =
        registers.any fun register => register.toNat == place * 8 + bit := by
      intro bit
      rw [Bool.eq_iff_iff, List.any_eq_true, List.any_eq_true]
      simp only [same]
    simp only [byteOf, tests]
  have widths : widthFor others = widthFor registers := by
    have fits : (others.all fun register => register < 24) =
        registers.all fun register => register < 24 := by
      rw [Bool.eq_iff_iff, all_lt_iff, all_lt_iff]
      simp only [same]
    rw [widthFor, widthFor, fits]
  rw [selecting, selecting, widths]
  exact congrArg mk (List.map_congr_left fun place _ => bytes place)

/-- The bitmap of a selection that was read has a length that was written in two bytes. -/
theorem length_of_decoded (reader after : Reader) (selection : RegisterSelection)
    (read : decode.run reader = (.ok selection, after)) : selection.bitmap.length < 2 ^ 29 := by
  obtain ⟨bytes, ⟨legible, _⟩, _, _⟩ := (reads _ _ _).mp read
  exact Nat.lt_of_le_of_lt (legible _ List.mem_cons_self) (by decide)

/-- Some registers are selected exactly if there is room for all of them, and what is selected then
is the set of them, whatever their order.  Any other selection, one that was read among them, lists
what its bitmap marks. -/
theorem denotes (registers : List UInt32) :
    ((∃ selection, ofIndices registers = .ok selection) ↔ ∀ register ∈ registers, register < 32) ∧
      (∀ selection, ofIndices registers = .ok selection → selection.Covers registers) ∧
      (∀ others, (∀ register, register ∈ others ↔ register ∈ registers) →
        ∀ selection, ofIndices registers = .ok selection → ofIndices others = .ok selection) ∧
      (∀ selection : RegisterSelection, selection.bitmap.length < 2 ^ 29 →
        selection.ListsMarked) ∧
      ∀ reader after selection, decode.run reader = (.ok selection, after) →
        selection.ListsMarked := by
  refine ⟨?_, ?_, ?_, listsMarked, fun reader after selection read =>
    selection.listsMarked (length_of_decoded reader after selection read)⟩
  · constructor
    · rintro ⟨selection, selected⟩
      exact ((ofIndices_eq_ok_iff _ _).mp selected).1
    · intro fit
      exact ⟨_, (ofIndices_eq_ok_iff _ _).mpr ⟨fit, rfl⟩⟩
  · intro selection selected
    obtain ⟨fit, rfl⟩ := (ofIndices_eq_ok_iff _ _).mp selected
    exact covers_selecting registers fit
  · intro others same selection selected
    obtain ⟨fit, rfl⟩ := (ofIndices_eq_ok_iff _ _).mp selected
    exact (ofIndices_eq_ok_iff _ _).mpr
      ⟨fun register member => fit register ((same register).mp member),
        (selecting_congr registers others same).symm⟩

/-- Four bytes are taken for the one register that needs the fourth; a register that would need a
fifth is refused. -/
theorem denotes_of_unordered :
    (∃ selection : RegisterSelection,
      ofIndices [25, 7, 0, 7] = .ok selection ∧ selection.bitmap = [0x81, 0, 0, 2] ∧
        selection.Covers [25, 7, 0, 7] ∧ ofIndices [0, 7, 25] = .ok selection ∧
        selection.bitmap.length < 2 ^ 29 ∧ selection.ListsMarked) ∧
      ¬ ∃ selection, ofIndices [32] = .ok selection := by
  obtain ⟨_, covers, sameSet, lists, _⟩ := denotes [25, 7, 0, 7]
  have selected : ofIndices [25, 7, 0, 7] = .ok ⟨[0x81, 0, 0, 2]⟩ := rfl
  refine ⟨⟨_, selected, rfl, covers _ selected, sameSet _ ?_ _ selected, by decide,
    lists _ (by decide)⟩, fun possible => ?_⟩
  · simp
    grind
  · exact absurd ((denotes [32]).1.mp possible 32 (List.mem_singleton_self 32)) (by decide)

end TrustedPlatform.RegisterSelection
