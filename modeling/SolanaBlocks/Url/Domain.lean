import SolanaBlocks.Text.Composition
import SolanaBlocks.Text.Letter
import SolanaBlocks.Url.DomainTable
import SolanaBlocks.Url.Punycode
import SolanaBlocks.Url.Script

/-!
# Domains

A domain is a list of labels with points between them. Characters that are forms of others are
replaced, so that domains which look alike are alike, and every label is then written in ASCII: a
label with other characters in it becomes `xn--` and its Punycode. A label that is given in Punycode
has to be what such a label would be written as.
-/

namespace SolanaBlocks.Url

/-- What stands for a character in a domain, if it has a place there. -/
def replacement? (c : Char) : Option (List Char) :=
  if c.toNat < 0x80 then some [c.toLower]
  else
    match movedForms.image? c with
    | some d => some [d]
    | none =>
      match spelledForms.row? c with
      | some row => some (row.numbers.map Char.ofNat)
      | none => if refusedCharacters.covers c then none else some (Text.toSmall c)

/-- A domain with every character replaced, if all have a place there. -/
def replaced? (cs : List Char) : Option (List Char) :=
  (cs.mapM replacement?).map fun texts => Text.composedForm texts.flatten

/-- Whether a character is in ASCII. -/
def isAscii (c : Char) : Bool := c.toNat < 0x80

/-- What a label in Punycode starts with. -/
def codeMark : List Char := ['x', 'n', '-', '-']

/-- Whether a label may consist of these characters: it does not start with a mark, and its joiners
are where they belong. -/
def isFit (label : List Char) : Bool :=
  !(label.head?.any fun c => Text.nonspacingMarks.covers c || Text.spacingMarks.covers c) &&
    joinersFit [] label

/-- A label as it is read and as it is written in ASCII. -/
structure Label where
  read : List Char
  written : List Char
deriving DecidableEq, Repr

namespace Label

/-- The label that a text in Punycode stands for. The text has at most 2000 characters. -/
def ofCode? (code : List Char) : Option Label := do
  let read ← if code.length ≤ 2000 then Punycode.decode code else none
  if read.all isAscii || codeMark.isPrefixOf read || !isFit read || replaced? read != some read then
    none
  else some ⟨read, codeMark ++ code⟩

/-- The label of a text whose characters have been replaced. If not all of them are in ASCII, there
are at most 1000. -/
def ofText? (cs : List Char) : Option Label :=
  if codeMark.isPrefixOf cs then ofCode? (cs.drop codeMark.length)
  else if cs.all isAscii then some ⟨cs, cs⟩
  else if isFit cs && cs.length ≤ 1000 then some ⟨cs, codeMark ++ Punycode.encode cs⟩
  else none

end Label

/-- A domain as it is written in ASCII. If something in it is written from right to left, every
label keeps to one direction. -/
def domain? (cs : List Char) : Option (List Char) := do
  let cs ← replaced? cs
  let labels ← (Text.splitOn '.' cs).mapM Label.ofText?
  if labels.any (fun label => hasRightToLeft label.read) &&
      labels.any (fun label => !hasOneDirection label.read) then none
  else some (['.'].intercalate (labels.map Label.written))

end SolanaBlocks.Url
