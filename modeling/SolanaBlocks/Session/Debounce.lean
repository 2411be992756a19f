import SolanaBlocks.Wait

/-!
# Debouncing

Changes that follow each other closely are answered once. A receiver waits for a change, then for a
window of time in which nothing changes further, and returns the latest value. It then waits again.
Once no more changes can come it returns what it has seen and not returned, and ends.

Times are in milliseconds.
-/

namespace SolanaBlocks.Debounce

variable {α : Type}

/-- Changes and the closing of the sender at the times when they really happen: what is late happens
as soon as it can. -/
def onTime (now : Nat) : List (Nat × α) → (close : Nat) → List (Nat × α) × Nat
  | [], close => ([], max now close)
  | (time, value) :: rest, close =>
    let (rest, close) := onTime (max now time) rest close
    ((max now time, value) :: rest, close)

/-- What a receiver returns and when, given the value it has seen and not returned yet, with the end
of its window, the changes to come, and the time when the sender closes. Changes at one instant
count as one even if there is no window at all. -/
def settleFrom (window : Nat) :
    (pending : Option (Nat × α)) → (changes : List (Nat × α)) → (close : Nat) →
      List (Nat × Option α)
  | none, [], close => [(close, none)]
  | some (due, value), [], close => [(min due close, some value), (close, none)]
  | none, (time, value) :: rest, close =>
    settleFrom window (some (time + waitTime window, value)) rest close
  | some (due, old), (time, value) :: rest, close =>
    if time < due ∨ window = 0 ∧ time = due then
      settleFrom window (some (time + waitTime window, value)) rest close
    else (due, some old) :: settleFrom window (some (time + waitTime window, value)) rest close

/-- What a receiver returns and when, for changes made one after the other. -/
def settle (window : Nat) (changes : List (Nat × α)) (close : Nat) : List (Nat × Option α) :=
  let (changes, close) := onTime 0 changes close
  settleFrom window none changes close

end SolanaBlocks.Debounce
