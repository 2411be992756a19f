/-!
# Durations

A duration is shown in the largest of the units s, ms, µs and ns in which it reaches one, with as
many decimals as it needs.
-/

namespace SolanaBlocks.CommandLine

/-- Decimals without the zeros at their end, after a point if any are left. -/
def decimals (digits : List Char) : List Char :=
  match (digits.reverse.dropWhile (· == '0')).reverse with
  | [] => []
  | kept => '.' :: kept

/-- A count of units of `10 ^ places` parts each, given the number of parts. -/
def inUnits (places parts : Nat) : String :=
  let rest := (toString (parts % Nat.pow 10 places)).toList
  let digits := List.replicate (places - rest.length) '0' ++ rest
  toString (parts / Nat.pow 10 places) ++
    String.ofList (decimals (if places = 0 then [] else digits))

/-- A number of nanoseconds. -/
def durationText (nanoseconds : Nat) : String :=
  if 1000000000 ≤ nanoseconds then inUnits 9 nanoseconds ++ "s"
  else if 1000000 ≤ nanoseconds then inUnits 6 nanoseconds ++ "ms"
  else if 1000 ≤ nanoseconds then inUnits 3 nanoseconds ++ "µs"
  else inUnits 0 nanoseconds ++ "ns"

end SolanaBlocks.CommandLine
