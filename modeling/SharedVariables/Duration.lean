/-!
# Durations

A span of time in nanoseconds, and its text: in the largest unit that gives it a whole part, with as
many decimals as it needs.
-/

namespace SharedVariables

/-- A span of time. -/
structure Duration where
  nanos : Nat
deriving DecidableEq, Repr

namespace Duration

/-- So many seconds. -/
def ofSeconds (n : Nat) : Duration := ⟨n * 1000000000⟩

/-- So many milliseconds. -/
def ofMillis (n : Nat) : Duration := ⟨n * 1000000⟩

/-- The whole seconds of a span. -/
def seconds (d : Duration) : Nat := d.nanos / 1000000000

/-- The nanoseconds of a span beyond its whole seconds. -/
def subsecNanos (d : Duration) : Nat := d.nanos % 1000000000

/-- The decimals of `n / 10 ^ places`, without zeros at the end. -/
def decimals (places n : Nat) : List Char :=
  let digits := Nat.toDigits 10 (n % Nat.pow 10 places)
  let all := List.replicate (places - digits.length) '0' ++ digits
  (all.reverse.dropWhile (· == '0')).reverse

/-- `n / 10 ^ places` in decimal, with a unit behind it. -/
def inUnit (places n : Nat) (unit : String) : String :=
  let fraction := decimals places n
  let point := if fraction.isEmpty then "" else "."
  toString (n / Nat.pow 10 places) ++ point ++ String.ofList fraction ++ unit

/-- The text of a span. -/
def text (d : Duration) : String :=
  if d.nanos ≥ 1000000000 then inUnit 9 d.nanos "s"
  else if d.nanos ≥ 1000000 then inUnit 6 d.nanos "ms"
  else if d.nanos ≥ 1000 then inUnit 3 d.nanos "µs"
  else inUnit 0 d.nanos "ns"

end Duration

end SharedVariables
