/-!
# Tables

A finite table from 32-bit numbers to values, in ascending order of the numbers.  Tables with the
same entries are the same table.

* `get?_insert`, `get?_erase`, `get?_restrict`: what each change does to a look-up.
-/

set_option autoImplicit false

namespace TrustedPlatform

/-- A finite table keyed by numbers. -/
structure Table (α : Type) where
  entries : List (UInt32 × α)
  ascending : entries.Pairwise fun first second => first.1 < second.1

namespace Table

variable {α : Type}

def empty : Table α := ⟨[], .nil⟩

instance : Inhabited (Table α) := ⟨empty⟩

@[ext] theorem ext {first second : Table α} (same : first.entries = second.entries) :
    first = second := by
  cases first
  cases second
  cases same
  rfl

def keys (table : Table α) : List UInt32 := table.entries.map Prod.fst

def get? (table : Table α) (key : UInt32) : Option α := table.entries.lookup key

def contains (table : Table α) (key : UInt32) : Bool := (table.get? key).isSome

def place (key : UInt32) (value : α) : List (UInt32 × α) → List (UInt32 × α)
  | [] => [(key, value)]
  | entry :: rest =>
    if key < entry.1 then (key, value) :: entry :: rest
    else if key = entry.1 then (key, value) :: rest
    else entry :: place key value rest

theorem mem_place {key : UInt32} {value : α} {entry : UInt32 × α}
    {entries : List (UInt32 × α)} (found : entry ∈ place key value entries) :
    entry = (key, value) ∨ entry ∈ entries := by
  induction entries with
  | nil => exact Or.inl (by simpa [place] using found)
  | cons head rest inductionHypothesis =>
    unfold place at found
    split at found
    · simpa using found
    · split at found
      · rcases List.mem_cons.mp found with here | there
        · exact Or.inl here
        · exact Or.inr (List.mem_cons_of_mem _ there)
      · rcases List.mem_cons.mp found with here | there
        · exact Or.inr (here ▸ List.mem_cons_self)
        · rcases inductionHypothesis there with isNew | isOld
          · exact Or.inl isNew
          · exact Or.inr (List.mem_cons_of_mem _ isOld)

theorem ascending_place (key : UInt32) (value : α) {entries : List (UInt32 × α)}
    (ascending : entries.Pairwise fun first second => first.1 < second.1) :
    (place key value entries).Pairwise fun first second => first.1 < second.1 := by
  induction ascending with
  | nil => simp [place]
  | @cons head rest below ascending inductionHypothesis =>
    unfold place
    split
    · rename_i before
      refine List.Pairwise.cons ?_ (List.Pairwise.cons below ascending)
      intro entry found
      rcases List.mem_cons.mp found with here | there
      · exact here ▸ before
      · exact UInt32.lt_trans before (below entry there)
    · split
      · rename_i same
        exact List.Pairwise.cons (fun entry found => same ▸ below entry found) ascending
      · rename_i notBefore notSame
        refine List.Pairwise.cons ?_ inductionHypothesis
        intro entry found
        rcases mem_place found with isNew | isOld
        · subst isNew
          exact UInt32.lt_of_le_of_ne (UInt32.not_lt.mp notBefore) (fun same => notSame same.symm)
        · exact below entry isOld

def insert (table : Table α) (key : UInt32) (value : α) : Table α :=
  ⟨place key value table.entries, ascending_place key value table.ascending⟩

def restrict (table : Table α) (keep : UInt32 → Bool) : Table α :=
  ⟨table.entries.filter fun entry => keep entry.1, table.ascending.filter _⟩

def erase (table : Table α) (key : UInt32) : Table α := table.restrict fun other => other != key

/-- The table with a value under a key, unless there is one already. -/
def insertIfNew (table : Table α) (key : UInt32) (value : α) : Table α :=
  if table.contains key then table else table.insert key value

theorem lookup_place (key other : UInt32) (value : α) {entries : List (UInt32 × α)}
    (ascending : entries.Pairwise fun first second => first.1 < second.1) :
    (place key value entries).lookup other =
      if other = key then some value else entries.lookup other := by
  induction ascending with
  | nil =>
    by_cases same : other = key
    · simp [place, same]
    · have different : (other == key) = false := by simpa using same
      simp [place, List.lookup_cons, same, different]
  | @cons head rest below ascending inductionHypothesis =>
    obtain ⟨headKey, headValue⟩ := head
    unfold place
    by_cases before : key < headKey
    · rw [if_pos before]
      by_cases same : other = key
      · simp [same]
      · have different : (other == key) = false := by simpa using same
        simp [List.lookup_cons, same, different]
    · rw [if_neg before]
      by_cases equal : key = headKey
      · rw [if_pos equal]
        by_cases same : other = key
        · simp [same]
        · have different : (other == key) = false := by simpa using same
          have alsoDifferent : (other == headKey) = false := equal ▸ different
          simp [List.lookup_cons, same, different, alsoDifferent]
      · rw [if_neg equal]
        by_cases here : other = headKey
        · have notKey : ¬ other = key := fun same => equal (same ▸ here)
          simp [here, Ne.symm equal]
        · have different : (other == headKey) = false := by simpa using here
          simp only [List.lookup_cons, different, inductionHypothesis]

theorem get?_insert (table : Table α) (key other : UInt32) (value : α) :
    (table.insert key value).get? other =
      if other = key then some value else table.get? other :=
  lookup_place key other value table.ascending

theorem get?_restrict (table : Table α) (keep : UInt32 → Bool) (key : UInt32) :
    (table.restrict keep).get? key = if keep key then table.get? key else none := by
  show List.lookup key (table.entries.filter _) = if keep key then table.entries.lookup key else _
  induction table.entries with
  | nil => simp
  | cons head rest inductionHypothesis =>
    obtain ⟨headKey, headValue⟩ := head
    by_cases same : key = headKey
    · subst same
      cases kept : keep key with
      | true => simp [List.filter, kept]
      | false =>
        rw [kept] at inductionHypothesis
        simpa [List.filter, kept] using inductionHypothesis
    · have different : (key == headKey) = false := by simpa using same
      cases kept : keep headKey with
      | true => simpa [List.filter, kept, List.lookup_cons, different] using inductionHypothesis
      | false => simpa [List.filter, kept, List.lookup_cons, different] using inductionHypothesis

theorem get?_erase (table : Table α) (key other : UInt32) :
    (table.erase key).get? other = if other = key then none else table.get? other := by
  rw [erase, get?_restrict]
  by_cases same : other = key <;> simp [same]

end Table

end TrustedPlatform
