/-!
# Padding

A text is brought to some width by spaces after it. A text that is wider stays as it is.
-/

namespace SolanaBlocks.Text

/-- A text with spaces after it up to some width. -/
def padTo (width : Nat) (text : String) : String :=
  text ++ String.ofList (List.replicate (width - text.length) ' ')

end SolanaBlocks.Text
