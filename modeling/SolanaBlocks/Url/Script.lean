import SolanaBlocks.Text.Composition
import SolanaBlocks.Url.ScriptTable

/-!
# Scripts in a label

Two rules about the labels of a domain. A label is written in one direction, so that the order in
which it is seen cannot mislead about the order of its characters. An invisible joiner stands only
where it changes what is seen.
-/

namespace SolanaBlocks.Url

/-! ## Directions -/

/-- The part that a character plays in the direction of its label. -/
inductive Direction where
  | left
  | right
  | arabicNumber
  | europeanNumber
  | neutral
  | mark
deriving DecidableEq, Repr

/-- Nonspacing marks that count as letters written from left to right. -/
def leftMarks : Text.Table := Text.Table.read ["CBF CC6 11A07-11A08 11C3F"]

/-- The part that a character plays. -/
def direction (c : Char) : Direction :=
  if c.toNat < 0x80 then
    if c.isAlpha then .left else if c.isDigit then .europeanNumber else .neutral
  else if leftMarks.covers c then .left
  else if Text.nonspacingMarks.covers c then .mark
  else if rightToLeftLetters.covers c then .right
  else if arabicNumbers.covers c then .arabicNumber
  else if europeanNumbers.covers c then .europeanNumber
  else if neutralCharacters.covers c then .neutral
  else .left

/-- Whether something in a label is written from right to left. -/
def hasRightToLeft (label : List Char) : Bool :=
  label.any fun c => direction c == .right || direction c == .arabicNumber

/-- Whether a label keeps to one direction. It starts with a letter and ends in a letter or digit,
up to marks. From left to right it has nothing of the other direction, from right to left no letters
of the other direction and only one kind of digits. -/
def hasOneDirection (label : List Char) : Bool :=
  let directions := label.map direction
  let last := (directions.reverse.dropWhile (· == .mark)).head?
  match directions with
  | [] => true
  | .left :: _ =>
    directions.all (fun d => d != .right && d != .arabicNumber) &&
      last.any fun d => d == .left || d == .europeanNumber
  | .right :: _ =>
    directions.all (· != .left) &&
      last.any (fun d => d == .right || d == .europeanNumber || d == .arabicNumber) &&
      !(directions.contains .europeanNumber && directions.contains .arabicNumber)
  | _ => false

/-! ## Joiners -/

/-- Whether letters join through a character as if it were not there. -/
def isTransparent (c : Char) : Bool :=
  Text.nonspacingMarks.covers c || c.toNat == 0x1E94B

/-- Whether a letter joins the one after it. -/
def joinsNext (c : Char) : Bool :=
  dualJoiners.covers c || nextJoiners.covers c

/-- Whether a letter joins the one before it. -/
def joinsPrevious (c : Char) : Bool :=
  dualJoiners.covers c || previousJoiners.covers c

/-- Whether a mark takes the vowel from the letter before it. -/
def isVirama (c : Char) : Bool :=
  Text.combiningClass c == 9

/-- Whether all joiners stand where they change something, where `before` holds the characters in
front, nearest first. Both kinds may follow a virama; the one that keeps letters apart may also
stand between letters that would join. -/
def joinersFit (before : List Char) : List Char → Bool
  | [] => true
  | c :: rest =>
    let afterVirama := before.head?.any isVirama
    let between :=
      ((before.dropWhile isTransparent).head?.any joinsNext) &&
        ((rest.dropWhile isTransparent).head?.any joinsPrevious)
    (if c.toNat = 0x200C then afterVirama || between
      else if c.toNat = 0x200D then afterVirama
      else true) && joinersFit (c :: before) rest

end SolanaBlocks.Url
