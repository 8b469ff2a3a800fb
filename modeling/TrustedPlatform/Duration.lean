/-!
# Durations

A span of time in whole nanoseconds, and its text: the largest unit of which there is at least one,
with the rest as a decimal fraction.
-/

set_option autoImplicit false

namespace TrustedPlatform

structure Duration where
  nanoseconds : Nat
  deriving DecidableEq, Repr

namespace Duration

def ofSeconds (seconds : Nat) : Duration := ⟨seconds * 1000000000⟩

def ofMilliseconds (milliseconds : Nat) : Duration := ⟨milliseconds * 1000000⟩

def wholeSeconds (span : Duration) : Nat := span.nanoseconds / 1000000000

def subsecond (span : Duration) : Nat := span.nanoseconds % 1000000000

def decimal (places numerator : Nat) : String :=
  let denominator := Nat.pow 10 places
  let whole := toString (numerator / denominator)
  let digits := (toString (numerator % denominator)).toList
  let fraction := List.replicate (places - digits.length) '0' ++ digits
  match (fraction.reverse.dropWhile (· == '0')).reverse with
  | [] => whole
  | shown => whole ++ "." ++ String.ofList shown

def display (span : Duration) : String :=
  if 1000000000 ≤ span.nanoseconds then decimal 9 span.nanoseconds ++ "s"
  else if 1000000 ≤ span.nanoseconds then decimal 6 span.nanoseconds ++ "ms"
  else if 1000 ≤ span.nanoseconds then decimal 3 span.nanoseconds ++ "µs"
  else toString span.nanoseconds ++ "ns"

end Duration

end TrustedPlatform
