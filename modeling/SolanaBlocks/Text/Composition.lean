import SolanaBlocks.Text.CompositionTable
import SolanaBlocks.Text.MarkTable

/-!
# Composed form

A text can be written with composed characters, or with bases and the marks that belong to them. The
composed form takes everything apart, puts the marks of every base into the order of their classes,
and composes what can be composed. It is Normalization Form C, except that characters which are
never put together again once they are taken apart stay as they are.
-/

namespace SolanaBlocks.Text

/-- The combining class of a character, zero for all but marks. -/
def combiningClass (c : Char) : Nat :=
  match combiningClasses.row? c with
  | some ⟨_, _, n :: _⟩ => n
  | _ => 0

/-! ## Syllables of Hangul

A syllable is a lead, a vowel and perhaps a tail. There are 19 leads, 21 vowels and 27 tails, and
the syllables follow each other in the order of these. -/

/-- The code point of the first syllable. -/
def firstSyllable : Nat := 0xAC00

/-- The code point of the first lead. -/
def firstLead : Nat := 0x1100

/-- The code point of the first vowel. -/
def firstVowel : Nat := 0x1161

/-- The code point before the first tail. -/
def noTail : Nat := 0x11A7

/-- The parts of a syllable. -/
def syllableParts? (c : Char) : Option (List Char) :=
  let n := c.toNat - firstSyllable
  if c.toNat < firstSyllable ∨ 19 * 21 * 28 ≤ n then none
  else
    let tail := if n % 28 = 0 then [] else [Char.ofNat (noTail + n % 28)]
    some (Char.ofNat (firstLead + n / (21 * 28)) :: Char.ofNat (firstVowel + n / 28 % 21) :: tail)

/-- The syllable that a lead and a vowel make, or a syllable without tail and a tail. -/
def syllable? (a b : Char) : Option Char :=
  let lead := a.toNat - firstLead
  let vowel := b.toNat - firstVowel
  let n := a.toNat - firstSyllable
  let tail := b.toNat - noTail
  if firstLead ≤ a.toNat ∧ lead < 19 ∧ firstVowel ≤ b.toNat ∧ vowel < 21 then
    some (Char.ofNat (firstSyllable + (lead * 21 + vowel) * 28))
  else if firstSyllable ≤ a.toNat ∧ n < 19 * 21 * 28 ∧ n % 28 = 0 ∧ 0 < tail ∧ tail < 28 then
    some (Char.ofNat (a.toNat + tail))
  else none

/-! ## Taking apart -/

/-- The characters that a character is composed of, one level down. -/
def parts (c : Char) : List Char :=
  match syllableParts? c with
  | some parts => parts
  | none =>
    match compositions.row? c with
    | some row => row.numbers.map Char.ofNat
    | none => [c]

/-- A text with everything taken apart. No character has more than three levels. -/
def takeApart (cs : List Char) : List Char :=
  ((cs.flatMap parts).flatMap parts).flatMap parts

/-! ## Ordering marks -/

/-- Puts a character in front of a text whose marks are in order. A mark goes behind those of lower
class. -/
def placeMark (c : Char) : List Char → List Char
  | [] => [c]
  | d :: rest =>
    if combiningClass d ≠ 0 ∧ combiningClass d < combiningClass c then d :: placeMark c rest
    else c :: d :: rest

/-- A text with the marks of every base in the order of their classes. -/
def orderMarks (cs : List Char) : List Char :=
  cs.foldr placeMark []

/-! ## Putting together -/

/-- The character that two others make. -/
def composite? (a b : Char) : Option Char :=
  match syllable? a b with
  | some c => some c
  | none =>
    (compositions.find? fun row => row.numbers == [a.toNat, b.toNat]).map fun row =>
      Char.ofNat row.first

/-- Puts together a base and what follows it, where `kept` holds the marks so far that stay. A mark
reaches the base unless one of the same or a higher class stands in between. -/
def composeAfter (base : Char) (kept : List Char) : List Char → List Char
  | [] => base :: kept
  | c :: rest =>
    let blocked := kept.getLast?.any fun last => combiningClass c ≤ combiningClass last
    match if blocked then none else composite? base c with
    | some whole => composeAfter whole kept rest
    | none =>
      if combiningClass c = 0 then base :: kept ++ composeAfter c [] rest
      else composeAfter base (kept ++ [c]) rest

/-- Puts together what can be put together. -/
def putTogether : List Char → List Char
  | [] => []
  | c :: rest =>
    if combiningClass c = 0 then composeAfter c [] rest else c :: putTogether rest

/-- The composed form of a text. -/
def composedForm (cs : List Char) : List Char :=
  putTogether (orderMarks (takeApart cs))

end SolanaBlocks.Text
