import SolanaBlocks.Text.CaseTable

/-!
# Letters and their case

Capital and small letters of all scripts, and the small form of a text. One letter depends on its
neighbours: a capital sigma becomes the final small sigma at the end of a word.
-/

namespace SolanaBlocks.Text

/-- Capital letters: the Unicode property Uppercase. -/
def isCapital (c : Char) : Bool :=
  if c.toNat < 0x80 then c.isUpper else capitalLetters.covers c

/-- Small letters: the Unicode property Lowercase. -/
def isSmall (c : Char) : Bool :=
  if c.toNat < 0x80 then c.isLower else smallLetters.covers c

/-- The small form of one character taken alone. The dotted capital I is the only character whose
small form is two characters. -/
def toSmall (c : Char) : List Char :=
  if c.toNat < 0x80 then [c.toLower]
  else if c.toNat = 0x130 then ['i', Char.ofNat 0x307]
  else [(smallForms.image? c).getD c]

/-- Whether the first character that does not ignore case is cased. -/
def startsCased (cs : List Char) : Bool :=
  match cs.dropWhile caseIgnoringCharacters.covers with
  | [] => false
  | c :: _ => casedCharacters.covers c

/-- The small form of `cs`, where `before` holds the characters in front of it, nearest first. -/
def toSmallAfter (before : List Char) : List Char → List Char
  | [] => []
  | c :: rest =>
    let small :=
      if c.toNat = 0x3A3 then
        if startsCased before && !startsCased rest then [Char.ofNat 0x3C2] else [Char.ofNat 0x3C3]
      else toSmall c
    small ++ toSmallAfter (c :: before) rest

/-- The small form of a text. -/
def lowercase (s : String) : String :=
  String.ofList (toSmallAfter [] s.toList)

end SolanaBlocks.Text
