import SolanaBlocks.Wait

/-!
# Moments

The clock of a session counts milliseconds. Much can happen within one of them: those who act take
turns, and a moment is the time on the clock together with the turn.
-/

namespace SolanaBlocks

/-- A point in time: the milliseconds on the clock, and the turn within that instant. -/
structure Moment where
  time : Nat
  turn : Nat := 0
deriving DecidableEq, Repr

namespace Moment

/-- The order of time. -/
def isAtMost (a b : Moment) : Bool :=
  a.time < b.time || (a.time == b.time && a.turn ≤ b.turn)

/-- The moment some pauses later. A pause of no length passes the turn on. -/
def afterPauses (start : Moment) (length count : Nat) : Moment :=
  if count = 0 then start
  else if length = 0 then { start with turn := start.turn + count }
  else { time := start.time + count * waitTime length }

/-- The moment after a wait. -/
def afterTime (start : Moment) (length : Nat) : Moment :=
  if length = 0 then start else { time := start.time + waitTime length }

/-- The earlier of two moments, if there are any. -/
def earliest : Option Moment → Option Moment → Option Moment
  | some a, some b => some (if a.isAtMost b then a else b)
  | some a, none => some a
  | none, b => b

/-- The later of two moments. -/
def latest (a b : Moment) : Moment :=
  if a.isAtMost b then b else a

end Moment

end SolanaBlocks
