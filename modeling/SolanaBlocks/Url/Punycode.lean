/-!
# Punycode

A text written in ASCII. The ASCII characters come first, then, after a hyphen, numbers that tell
where the others are inserted. The characters are inserted in the order of their code points. A
number counts the steps since the last insertion; a step goes to the next place in the text, and
from the last place to the first place for the next code point.

Numbers are written in base 36 with the low digits first. A digit below its threshold is the last
one. The thresholds follow a bias, which adapts to the size of the numbers. Numbers that do not fit
into 32 bits are refused.
-/

namespace SolanaBlocks.Url.Punycode

/-! ## Digits -/

/-- The digit for a number below 36: letters, then the ten digits. -/
def digitChar (n : Nat) : Char :=
  if n < 26 then Char.ofNat ('a'.toNat + n) else Char.ofNat ('0'.toNat + (n - 26))

/-- The value of a digit. -/
def digitValue? (c : Char) : Option Nat :=
  if 'a' ≤ c ∧ c ≤ 'z' then some (c.toNat - 'a'.toNat)
  else if 'A' ≤ c ∧ c ≤ 'Z' then some (c.toNat - 'A'.toNat)
  else if c.isDigit then some (c.toNat - '0'.toNat + 26)
  else none

/-- The threshold of the digit at a place, where the places are counted in steps of 36. -/
def threshold (bias place : Nat) : Nat :=
  min (max (place - bias) 1) 26

/-- The bias that suits numbers of some size. -/
def biasFor (size : Nat) : Nat :=
  if 455 < size then 36 + biasFor (size / 35) else 36 * size / (size + 38)
termination_by size

/-- The bias after a number, where the text now has `count` characters. The first number is expected
to be much larger than the others. -/
def adapt (number count : Nat) (isFirst : Bool) : Nat :=
  let size := if isFirst then number / 700 else number / 2
  biasFor (size + size / count)

/-! ## Writing -/

/-- The digits of a number from a place on. -/
def writeNumber (bias place number : Nat) : List Char :=
  let t := threshold bias place
  if number < t then [digitChar number]
  else
    digitChar (t + (number - t) % (36 - t)) ::
      writeNumber bias (place + 36) ((number - t) / (36 - t))
termination_by number
decreasing_by
  have lower : 1 ≤ threshold bias place := by unfold threshold; omega
  have := Nat.div_le_self (number - threshold bias place) (36 - threshold bias place)
  omega

/-- A text that is being written: the steps since the last insertion, the bias, the number of
characters that are in place, and the digits so far. -/
structure Writer where
  steps : Nat
  bias : Nat
  placed : Nat
  digits : List Char

/-- Goes over one character of the text while those of one code point are inserted. -/
def Writer.pass (basic codePoint : Nat) (w : Writer) (c : Char) : Writer :=
  if c.toNat < codePoint then { w with steps := w.steps + 1 }
  else if c.toNat = codePoint then
    { steps := 0
      bias := adapt w.steps (w.placed + 1) (w.placed == basic)
      placed := w.placed + 1
      digits := w.digits ++ writeNumber w.bias 36 w.steps }
  else w

/-- Inserts the characters of some code points, of which the least possible one is `next`. -/
def insertAll (cs : List Char) (basic : Nat) : (next : Nat) → List Nat → Writer → Writer
  | _, [], w => w
  | next, codePoint :: rest, w =>
    let w := { w with steps := w.steps + (codePoint - next) * (w.placed + 1) }
    let w := cs.foldl (Writer.pass basic codePoint) w
    insertAll cs basic (codePoint + 1) rest { w with steps := w.steps + 1 }

/-- A text in ASCII. -/
def encode (cs : List Char) : List Char :=
  let basic := cs.filter fun c => c.toNat < 0x80
  let others := ((cs.map Char.toNat).filter fun n => 0x80 ≤ n).mergeSort.eraseDups
  let written := insertAll cs basic.length 0x80 others ⟨0, 72, basic.length, []⟩
  (if basic.isEmpty then [] else basic ++ ['-']) ++ written.digits

/-! ## Reading -/

/-- Reads the digits of a number from a place on, which count `weight` there. The result is `sum`
and the number, and what follows. -/
def readNumber (bias place weight sum : Nat) : List Char → Option (Nat × List Char)
  | [] => none
  | c :: rest => do
    let digit ← digitValue? c
    let sum := sum + digit * weight
    let t := threshold bias place
    if 0x100000000 ≤ sum then none
    else if digit < t then some (sum, rest)
    else if 0x100000000 ≤ weight * (36 - t) then none
    else readNumber bias (place + 36) (weight * (36 - t)) sum rest

/-- Reading a number uses up digits. -/
theorem length_lt_of_readNumber {bias place weight sum : Nat} {cs rest : List Char} {n : Nat}
    (h : readNumber bias place weight sum cs = some (n, rest)) : rest.length < cs.length := by
  induction cs generalizing place weight sum with
  | nil => simp [readNumber] at h
  | cons c cs ih =>
    simp only [readNumber, Option.bind_eq_bind, Option.bind_eq_some_iff] at h
    obtain ⟨digit, -, h⟩ := h
    split at h
    · simp at h
    · split at h
      · simp only [Option.some.injEq, Prod.mk.injEq] at h
        simp [h.2]
      · split at h
        · simp at h
        · have := ih h
          simp only [List.length_cons]
          omega

/-- The character of a code point, unless it has none. -/
def charOf? (n : Nat) : Option Char :=
  if n.isValidChar then some (Char.ofNat n) else none

/-- Inserts characters into a text as numbers tell. The last insertion went before the place
`place`, with the code point `codePoint`. -/
def readInsertions (bias place codePoint : Nat) (isFirst : Bool) (text : List Char)
    (cs : List Char) : Option (List Char) :=
  if cs.isEmpty then some text
  else
    match _ : readNumber bias 36 1 place cs with
    | none => none
    | some (sum, rest) => do
      let count := text.length + 1
      let codePoint := codePoint + sum / count
      let c ← charOf? codePoint
      let text := text.take (sum % count) ++ c :: text.drop (sum % count)
      readInsertions (adapt (sum - place) count isFirst) (sum % count + 1) codePoint false text rest
termination_by cs.length
decreasing_by exact length_lt_of_readNumber (by assumption)

/-- The text that is written in ASCII. -/
def decode (cs : List Char) : Option (List Char) :=
  let digits := (cs.reverse.takeWhile (· != '-')).reverse
  match cs.reverse.dropWhile (· != '-') with
  | [] => readInsertions 72 0 0x80 true [] digits
  | _ :: basic =>
    if basic.isEmpty ∨ basic.any fun c => 0x80 ≤ c.toNat then none
    else readInsertions 72 0 0x80 true basic.reverse digits

end SolanaBlocks.Url.Punycode
