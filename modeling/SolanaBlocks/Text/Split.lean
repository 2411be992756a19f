/-!
# Splitting

A text cut at every place of some character.
-/

namespace SolanaBlocks.Text

/-- The parts of a text between separators. -/
def splitOn (separator : Char) : List Char → List (List Char)
  | [] => [[]]
  | c :: cs =>
    if c = separator then [] :: splitOn separator cs
    else
      match splitOn separator cs with
      | [] => [[c]]
      | part :: rest => (c :: part) :: rest

end SolanaBlocks.Text
