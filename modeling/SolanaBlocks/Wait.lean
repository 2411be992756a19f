/-!
# Waiting

How long a wait takes that is meant to take some milliseconds.
-/

namespace SolanaBlocks

/-- The milliseconds that a single wait takes. No wait is longer than thirty years of 365 days. -/
def waitTime (length : Nat) : Nat := min length 946080000000

end SolanaBlocks
