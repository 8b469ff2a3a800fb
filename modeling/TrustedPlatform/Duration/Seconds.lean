import TrustedPlatform.Duration

/-!
# Durations as seconds

A span of time as a binary fraction of seconds, and back to the nearest whole nanosecond; a half
goes to the even one.

* `roundedQuotient_near`: a rounded quotient is at most half a unit away.
-/

set_option autoImplicit false

namespace TrustedPlatform.Duration

/-- The whole number nearest to a quotient; of two, the even one. -/
def roundedQuotient (numerator denominator : Nat) : Nat :=
  let quotient := numerator / denominator
  let remainder := numerator % denominator
  if 2 * remainder < denominator then quotient
  else if denominator < 2 * remainder then quotient + 1
  else quotient + quotient % 2

/-- A binary fraction as a span, if it is at least zero and below 2^64 seconds.  A fraction with
the sign bit set is below zero unless it is zero. -/
def ofFraction? (seconds : Float) : Option Duration :=
  let bits := seconds.toBits.toNat
  let field := (bits >>> 52) % 0x800
  let low := bits % 0x10000000000000
  let significand := if field = 0 then low else 0x10000000000000 + low
  let power := max field 1
  if 0x8000000000000000 ≤ bits ∧ significand ≠ 0 then none
  else if 1023 + 64 ≤ field then none
  else if 1075 ≤ power then some ⟨(significand <<< (power - 1075)) * 1000000000⟩
  else some ⟨roundedQuotient (significand * 1000000000) (1 <<< (1075 - power))⟩

/-- A span as a binary fraction: the whole seconds and the rest, each rounded, and their sum. -/
def toFraction (span : Duration) : Float :=
  span.wholeSeconds.toUInt64.toFloat + span.subsecond.toUInt64.toFloat / 1000000000

theorem roundedQuotient_near (numerator denominator : Nat) (positive : 0 < denominator) :
    2 * (roundedQuotient numerator denominator * denominator) ≤
        2 * numerator + denominator ∧
      2 * numerator ≤
        2 * (roundedQuotient numerator denominator * denominator) + denominator := by
  have division := Nat.div_add_mod numerator denominator
  have below := Nat.mod_lt numerator positive
  rw [Nat.mul_comm] at division
  unfold roundedQuotient
  dsimp only
  generalize numerator / denominator = quotient at *
  generalize numerator % denominator = remainder at *
  split
  · omega
  · split
    · rw [Nat.add_mul]
      omega
    · rcases Nat.mod_two_eq_zero_or_one quotient with even | odd
      · rw [even, Nat.add_zero]
        omega
      · rw [odd, Nat.add_mul]
        omega

end TrustedPlatform.Duration
