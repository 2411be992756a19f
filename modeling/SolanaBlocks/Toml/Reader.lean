import SolanaBlocks.Decimal.Reading
import SolanaBlocks.Toml.Basic

/-!
# Reading TOML

A reader takes what it needs from the front of a text and hands back the rest, or fails. A document
is a sequence of statements, each on a line of its own; arrays may run over many lines. Values nest
less than 80 deep, and a key has fewer than 80 parts.
-/

namespace SolanaBlocks.Toml

/-- A reader of an `α`. -/
abbrev Reader (α : Type) := List Char → Option (α × List Char)

/-- The number of levels, or of parts of a key, that is too much. -/
def nestingLimit : Nat := 80

/-! ## Blanks, comments and line ends -/

/-- The text without the blanks in front of it. -/
def skipBlanks (cs : List Char) : List Char :=
  cs.dropWhile fun c => c == ' ' || c == '\t'

/-- Characters that may stand on a line. -/
def isLineChar (c : Char) : Bool :=
  c == '\t' || (0x20 ≤ c.toNat && c.toNat != 0x7F)

/-- The text after a line end, if it starts with one. -/
def afterNewline? : List Char → Option (List Char)
  | '\n' :: cs => some cs
  | '\r' :: '\n' :: cs => some cs
  | _ => none

/-- The text without the comment in front of it, if there is one. -/
def skipComment : List Char → List Char
  | '#' :: cs => cs.dropWhile isLineChar
  | cs => cs

/-- The rest of a line that holds nothing more than a comment. -/
def readLineEnd (cs : List Char) : Option (List Char) :=
  match skipComment (skipBlanks cs) with
  | [] => some []
  | cs => afterNewline? cs

/-- Passes over blanks, comments and line ends, at most `fuel` lines. -/
def skipLinesWithin : Nat → List Char → Option (List Char)
  | 0, _ => none
  | fuel + 1, cs =>
    match skipBlanks cs with
    | '#' :: cs => (afterNewline? (skipComment ('#' :: cs))).bind (skipLinesWithin fuel)
    | cs =>
      match afterNewline? cs with
      | some cs => skipLinesWithin fuel cs
      | none => some cs

/-- Passes over blanks, comments and line ends. A comment has to be followed by a line end. -/
def skipLines (cs : List Char) : Option (List Char) :=
  skipLinesWithin (cs.length + 1) cs

/-- Takes a word. -/
def readWord : List Char → List Char → Option (List Char)
  | [], cs => some cs
  | _ :: _, [] => none
  | expected :: more, c :: cs => if c = expected then readWord more cs else none

/-! ## Strings -/

/-- The value of a digit in base sixteen. -/
def hexValue? (c : Char) : Option Nat :=
  if c.isDigit then some (c.toNat - '0'.toNat)
  else if 'a' ≤ c ∧ c ≤ 'f' then some (c.toNat - 'a'.toNat + 10)
  else if 'A' ≤ c ∧ c ≤ 'F' then some (c.toNat - 'A'.toNat + 10)
  else none

/-- The character whose number is written with `count` digits in base sixteen. -/
def readScalar (count : Nat) : Reader Char := fun cs => do
  let digits ← (cs.take count).mapM hexValue?
  let n := digits.foldl (fun n digit => 16 * n + digit) 0
  if digits.length = count ∧ n.isValidChar then some (Char.ofNat n, cs.drop count) else none

/-- The character of an escape, after the backslash. -/
def readEscape : Reader Char
  | 'b' :: cs => some (Char.ofNat 8, cs)
  | 't' :: cs => some ('\t', cs)
  | 'n' :: cs => some ('\n', cs)
  | 'f' :: cs => some (Char.ofNat 12, cs)
  | 'r' :: cs => some ('\r', cs)
  | '"' :: cs => some ('"', cs)
  | '\\' :: cs => some ('\\', cs)
  | 'u' :: cs => readScalar 4 cs
  | 'U' :: cs => readScalar 8 cs
  | _ => none

/-- The text without the blanks and line ends in front of it. -/
def skipBlankLines : List Char → List Char
  | ' ' :: cs => skipBlankLines cs
  | '\t' :: cs => skipBlankLines cs
  | '\n' :: cs => skipBlankLines cs
  | '\r' :: '\n' :: cs => skipBlankLines cs
  | cs => cs

/-- The text after a backslash at the end of a line, which joins the line with the next visible
character. -/
def afterJoin? (cs : List Char) : Option (List Char) :=
  (afterNewline? (skipBlanks cs)).map skipBlankLines

/-- The rest of a string on one line, after its opening quote, in at most `fuel` steps. Only strings
in double quotes know escapes. -/
def readLineString (quote : Char) : Nat → Reader (List Char)
  | 0, _ => none
  | fuel + 1, cs => do
    match cs with
    | [] => none
    | c :: cs =>
      if c = quote then some ([], cs)
      else
        let (c, cs) ← if c = '\\' ∧ quote = '"' then readEscape cs
          else if isLineChar c then some (c, cs) else none
        let (rest, cs) ← readLineString quote fuel cs
        return (c :: rest, cs)

/-- The rest of a string over many lines, after the line end that may follow its opening quotes, in
at most `fuel` steps. Three quotes end the string; up to two more before them belong to it. -/
def readLongString (quote : Char) : Nat → Reader (List Char)
  | 0, _ => none
  | fuel + 1, cs => do
    match cs with
    | [] => none
    | c :: rest =>
      if c = quote then
        let count := min 5 (cs.takeWhile (· == quote)).length
        if 3 ≤ count then some (List.replicate (count - 3) quote, cs.drop count)
        else
          let (more, cs) ← readLongString quote fuel rest
          return (c :: more, cs)
      else if c = '\\' ∧ quote = '"' then
        match afterJoin? rest with
        | some rest => readLongString quote fuel rest
        | none =>
          let (c, rest) ← readEscape rest
          let (more, cs) ← readLongString quote fuel rest
          return (c :: more, cs)
      else
        match afterNewline? cs with
        | some rest =>
          let (more, cs) ← readLongString quote fuel rest
          return ('\n' :: more, cs)
        | none =>
          if isLineChar c then
            let (more, cs) ← readLongString quote fuel rest
            return (c :: more, cs)
          else none

/-- A string of any of the four kinds, after its first quote. -/
def readString (quote : Char) : Reader String := fun cs => do
  let (content, cs) ←
    if cs.take 2 = [quote, quote] then
      let cs := cs.drop 2
      readLongString quote (cs.length + 1) ((afterNewline? cs).getD cs)
    else readLineString quote (cs.length + 1) cs
  return (String.ofList content, cs)

/-! ## Keys -/

/-- Characters of a key without quotes. -/
def isBareChar (c : Char) : Bool :=
  c.isAlphanum || c == '-' || c == '_'

/-- One part of a key. -/
def readPart : Reader String
  | [] => none
  | c :: cs =>
    if c = '"' ∨ c = '\'' then do
      let (content, cs) ← readLineString c (cs.length + 1) cs
      return (String.ofList content, cs)
    else
      let bare := (c :: cs).takeWhile isBareChar
      if bare.isEmpty then none
      else some (String.ofList bare, (c :: cs).dropWhile isBareChar)

/-- A key of at most `parts` parts with points between them: the path to its last part, and this
part. -/
def readKeyWithin : (parts : Nat) → Reader (List String × String)
  | 0, _ => none
  | parts + 1, cs => do
    let (first, cs) ← readPart (skipBlanks cs)
    match skipBlanks cs with
    | '.' :: cs =>
      let ((path, last), cs) ← readKeyWithin parts cs
      return ((first :: path, last), cs)
    | cs => return (([], first), cs)

/-- A key. -/
def readKey : Reader (List String × String) :=
  readKeyWithin (nestingLimit - 1)

/-! ## Numbers -/

/-- A run of digits, in which an underscore may stand between two of them, and the rest. -/
def digitRun (isDigit : Char → Bool) : List Char → List Char × List Char
  | [] => ([], [])
  | c :: cs =>
    if isDigit c then
      let (digits, rest) :=
        match cs with
        | '_' :: d :: more => if isDigit d then digitRun isDigit (d :: more) else ([], cs)
        | cs => digitRun isDigit cs
      (c :: digits, rest)
    else ([], c :: cs)

/-- Digits of which there has to be one. -/
def readDigits (isDigit : Char → Bool) : Reader (List Char) := fun cs =>
  let (digits, rest) := digitRun isDigit cs
  if digits.isEmpty then none else some (digits, rest)

/-- The digits of a whole number. A leading zero is the only digit. -/
def readWhole : Reader (List Char)
  | '0' :: cs => some (['0'], cs)
  | cs => readDigits Char.isDigit cs

/-- A sign, if there is one. -/
def takeSign : List Char → List Char × List Char
  | '+' :: cs => (['+'], cs)
  | '-' :: cs => (['-'], cs)
  | cs => ([], cs)

/-- An exponent. -/
def readExponent : Reader (List Char)
  | c :: cs =>
    if c = 'e' ∨ c = 'E' then do
      let (sign, cs) := takeSign cs
      let (digits, cs) ← readDigits Char.isDigit cs
      return ('e' :: sign ++ digits, cs)
    else none
  | [] => none

/-- A fraction, which may be followed by an exponent. -/
def readFraction : Reader (List Char)
  | '.' :: cs => do
    let (digits, cs) ← readDigits Char.isDigit cs
    match readExponent cs with
    | some (exponent, cs) => return ('.' :: digits ++ exponent, cs)
    | none => return ('.' :: digits, cs)
  | _ => none

/-- A float with a fraction or an exponent. One that is too large is refused. -/
def readDecimal : Reader Toml := fun cs => do
  let (sign, cs) := takeSign cs
  let (whole, cs) ← readWhole cs
  let (rest, cs) ← readExponent cs <|> readFraction cs
  let x ← Decimal.readFloat? (String.ofList (sign ++ whole ++ rest))
  if BinaryNumber.ofFloat x = .infinite false then none else some (.float x, cs)

/-- Infinity or not-a-number. -/
def readSpecial : Reader Toml := fun cs => do
  let (sign, cs) := takeSign cs
  let (word, cs) ←
    ((readWord "inf".toList cs).map fun cs => ("inf".toList, cs)) <|>
      ((readWord "nan".toList cs).map fun cs => ("nan".toList, cs))
  let x ← Decimal.readFloat? (String.ofList (sign ++ word))
  return (.float x, cs)

/-- An integer of 64 bits with its sign. -/
def integer? (n : Int) : Option Toml :=
  if -0x8000000000000000 ≤ n ∧ n ≤ 0x7FFFFFFFFFFFFFFF then some (.integer n) else none

/-- An integer in the given base. -/
def readRadix (base : Nat) (isDigit : Char → Bool) : Reader Toml := fun cs => do
  let (digits, cs) ← readDigits isDigit cs
  let values ← digits.mapM hexValue?
  let value ← integer? (values.foldl (fun n digit => base * n + digit) 0 : Nat)
  return (value, cs)

/-- An integer. -/
def readInteger : Reader Toml
  | '0' :: 'x' :: cs => readRadix 16 (fun c => (hexValue? c).isSome) cs
  | '0' :: 'o' :: cs => readRadix 8 (fun c => '0' ≤ c && c ≤ '7') cs
  | '0' :: 'b' :: cs => readRadix 2 (fun c => c == '0' || c == '1') cs
  | cs => do
    let (sign, cs) := takeSign cs
    let (digits, cs) ← readWhole cs
    let n : Int := Decimal.digitsValue 0 digits
    let value ← integer? (if sign = ['-'] then -n else n)
    return (value, cs)

/-! ## Dates and times -/

/-- A number of two digits between two bounds. -/
def readTwo (low high : Nat) : Reader Nat
  | a :: b :: cs =>
    let n := Decimal.digitsValue 0 [a, b]
    if a.isDigit ∧ b.isDigit ∧ low ≤ n ∧ n ≤ high then some (n, cs) else none
  | _ => none

/-- The number of days of a month. -/
def daysIn (year month : Nat) : Nat :=
  if month = 2 then
    if year % 4 = 0 ∧ (year % 100 ≠ 0 ∨ year % 400 = 0) then 29 else 28
  else if month = 4 ∨ month = 6 ∨ month = 9 ∨ month = 11 then 30
  else 31

/-- Passes over a date. -/
def readDate (cs : List Char) : Option (List Char) := do
  let digits := cs.take 4
  if digits.length ≠ 4 ∨ !digits.all Char.isDigit then none
  let (month, cs) ← readTwo 1 12 (← readWord ['-'] (cs.drop 4))
  let (_, cs) ← readTwo 1 (daysIn (Decimal.digitsValue 0 digits) month) (← readWord ['-'] cs)
  return cs

/-- Passes over a time of day. -/
def readTime (cs : List Char) : Option (List Char) := do
  let (_, cs) ← readTwo 0 23 cs
  let (_, cs) ← readTwo 0 59 (← readWord [':'] cs)
  let (_, cs) ← readTwo 0 60 (← readWord [':'] cs)
  match cs with
  | '.' :: c :: rest => if c.isDigit then some (rest.dropWhile Char.isDigit) else some cs
  | _ => some cs

/-- Passes over a distance from universal time. -/
def readOffset (cs : List Char) : Option (List Char) := do
  match cs with
  | 'Z' :: cs => some cs
  | 'z' :: cs => some cs
  | '+' :: cs | '-' :: cs =>
    let (_, cs) ← readTwo 0 23 cs
    let (_, cs) ← readTwo 0 59 (← readWord [':'] cs)
    return cs
  | _ => none

/-- A date, a time of day, or both. -/
def readMoment : Reader Toml := fun cs =>
  match readDate cs with
  | none => (readTime cs).map fun cs => (.moment, cs)
  | some afterDate =>
    let afterBoth : Option (List Char) :=
      match afterDate with
      | 'T' :: cs | 't' :: cs | ' ' :: cs =>
        (readTime cs).map fun cs => (readOffset cs).getD cs
      | _ => none
    some (.moment, afterBoth.getD afterDate)

/-! ## Values -/

mutual

/-- A value that may nest `depth` more levels, in at most `fuel` steps. -/
def readValueWithin : Nat → Nat → Reader Toml
  | 0, _, _ => none
  | fuel + 1, depth, cs =>
    match cs with
    | '"' :: cs => (readString '"' cs).map fun (s, cs) => (.text s, cs)
    | '\'' :: cs => (readString '\'' cs).map fun (s, cs) => (.text s, cs)
    | 't' :: cs => (readWord "rue".toList cs).map fun cs => (.bool true, cs)
    | 'f' :: cs => (readWord "alse".toList cs).map fun cs => (.bool false, cs)
    | '[' :: cs =>
      match depth with
      | 0 => none
      | depth + 1 => (readItemsWithin fuel depth cs).map fun (items, cs) => (.array items, cs)
    | '\x7b' :: cs =>
      match depth with
      | 0 => none
      | depth + 1 => do
        let (pairs, cs) ←
          match skipBlanks cs with
          | '\x7d' :: cs => some ([], cs)
          | cs => readPairsWithin fuel depth cs
        let value ← buildWhole [] pairs
        return (value, cs)
    | cs => readMoment cs <|> readDecimal cs <|> readSpecial cs <|> readInteger cs

/-- The items of an array up to its closing bracket. A comma may follow the last one. -/
def readItemsWithin : Nat → Nat → Reader (List Toml)
  | 0, _, _ => none
  | fuel + 1, depth, cs => do
    match ← skipLines cs with
    | ']' :: cs => return ([], cs)
    | cs =>
      let (item, cs) ← readValueWithin fuel depth cs
      match ← skipLines cs with
      | ']' :: cs => return ([item], cs)
      | ',' :: cs =>
        let (rest, cs) ← readItemsWithin fuel depth cs
        return (item :: rest, cs)
      | _ => none

/-- The assignments between braces up to the closing one, of which there is at least one. -/
def readPairsWithin : Nat → Nat → Reader (List (List String × String × Toml))
  | 0, _, _ => none
  | fuel + 1, depth, cs => do
    let ((path, key), cs) ← readKey cs
    let cs ← readWord ['='] cs
    let (value, cs) ← readValueWithin fuel depth (skipBlanks cs)
    match skipBlanks cs with
    | '\x7d' :: cs => return ([(path, key, value)], cs)
    | ',' :: cs =>
      let (rest, cs) ← readPairsWithin fuel depth cs
      return ((path, key, value) :: rest, cs)
    | _ => none

end

/-- A value. Every two steps take a character. -/
def readValue : Reader Toml := fun cs =>
  readValueWithin (2 * cs.length + 2) (nestingLimit - 1) cs

/-! ## Documents -/

/-- A statement with the end of its line. -/
def readStatement : Reader Statement
  | '[' :: '[' :: cs => do
    let ((path, key), cs) ← readKey cs
    let cs ← readLineEnd (← readWord [']', ']'] cs)
    return (.openNext path key, cs)
  | '[' :: cs => do
    let ((path, key), cs) ← readKey cs
    let cs ← readLineEnd (← readWord [']'] cs)
    return (.open path key, cs)
  | cs => do
    let ((path, key), cs) ← readKey cs
    let cs ← readWord ['='] cs
    let (value, cs) ← readValue (skipBlanks cs)
    let cs ← readLineEnd cs
    return (.assign path key value, cs)

/-- The statements of a text of at most `fuel` lines. -/
def readStatements : Nat → List Char → Option (List Statement)
  | 0, _ => none
  | fuel + 1, cs =>
    match skipBlanks cs with
    | [] => some []
    | cs =>
      match readLineEnd cs with
      | some cs => readStatements fuel cs
      | none => do
        let (statement, cs) ← readStatement cs
        let rest ← readStatements fuel cs
        return statement :: rest

/-- The text without the mark that may stand at the start of a file. -/
def skipMark : List Char → List Char
  | '\ufeff' :: cs => cs
  | cs => cs

/-- The entries of the document that a text stands for. -/
def read (source : String) : Option Entries := do
  let cs := skipMark source.toList
  let statements ← readStatements (cs.length + 1) cs
  build [] [] statements

end SolanaBlocks.Toml
