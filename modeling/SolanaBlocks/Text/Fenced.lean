import SolanaBlocks.Text.Blank

/-!
# Fenced code

In an answer written for people, code stands between fences of three backquotes, the opening fence
with the name of the language behind it. Whoever wants only the code takes what is between the first
two fences.
-/

namespace SolanaBlocks.Text

/-- A text cut at its first fence, which belongs to neither part. -/
def cutFence? : List Char → Option (List Char × List Char)
  | '`' :: '`' :: '`' :: rest => some ([], rest)
  | [] => none
  | c :: rest => (cutFence? rest).map fun (before, after) => (c :: before, after)

/-- The characters of a language name. -/
def isTagChar (c : Char) : Bool :=
  c.isAlphanum || c == '_' || c == '-'

/-- The text without its first line, if this line is a language name with blanks around it, or
blank. A text of one line is left as it is. -/
def dropTag (cs : List Char) : List Char :=
  match cs.dropWhile (· != '\n') with
  | '\n' :: rest => if (dropBlanks (cs.takeWhile (· != '\n'))).all isTagChar then rest else cs
  | _ => cs

/-- The code in an answer: what stands in its first fenced part, or the whole answer if it has none,
without the blanks around it. A fence that is never closed reaches to the end. -/
def fencedCode (answer : List Char) : List Char :=
  match cutFence? answer with
  | none => dropBlanks answer
  | some (_, body) =>
    match cutFence? (dropTag body) with
    | some (code, _) => dropBlanks code
    | none => dropBlanks (dropTag body)

/-- The code in an answer. -/
def codeIn (answer : String) : String :=
  String.ofList (fencedCode answer.toList)

end SolanaBlocks.Text
