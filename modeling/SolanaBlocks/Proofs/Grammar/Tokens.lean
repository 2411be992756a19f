import SolanaBlocks.Proofs.Grammar.Unambiguous
import SolanaBlocks.Text.Table

/-!
# Code as tokens

How characters make up tokens: words and numerals are as long as they can be, a symbol is the
longest that fits, and a text literal ends at the first quote that is not escaped. Text that is not
one of these, a numeral with a letter behind it among it, has no tokens.

`Spells code tokens` says that the code makes up these tokens wherever it stands, as long as what
follows cannot be taken for a part of its last one.
-/

namespace SolanaBlocks.Grammar

/-- Where in a text literal a character stands. -/
inductive TextMode where
  | plain
  | escaped
  | opening
  | digits (count value : Nat)

/-- What a backslash and a character stand for. -/
def escape? (c : Char) : Option Char :=
  if c = '0' then some (Char.ofNat 0)
  else if c = 't' then some '\t'
  else if c = 'r' then some '\r'
  else if c = 'n' then some '\n'
  else if c = '"' ∨ c = '\\' ∨ c = '\'' then some c
  else none

/-- The content of a text literal behind its opening quote, and what follows the closing one. -/
def readText : TextMode → List Char → Option (List Char × List Char)
  | _, [] => none
  | .plain, c :: cs =>
    if c = '"' then some ([], cs)
    else if c = '\\' then readText .escaped cs
    else (readText .plain cs).map (Prod.map (c :: ·) id)
  | .escaped, c :: cs =>
    if c = 'u' then readText .opening cs
    else (escape? c).bind fun d => (readText .plain cs).map (Prod.map (d :: ·) id)
  | .opening, c :: cs => if c = '\x7b' then readText (.digits 0 0) cs else none
  | .digits count value, c :: cs =>
    if c = '\x7d' then
      if 0 < count ∧ count ≤ 6 ∧ value.isValidChar then
        (readText .plain cs).map (Prod.map (Char.ofNat value :: ·) id)
      else none
    else
      (Text.hexValue? c).bind fun digit => readText (.digits (count + 1) (16 * value + digit)) cs

/-- A numeral and what follows it. A point belongs to it if a digit comes next. -/
def splitNumeral (cs : List Char) : List Char × List Char :=
  let whole := cs.takeWhile Char.isDigit
  match cs.dropWhile Char.isDigit with
  | '.' :: d :: rest =>
    if d.isDigit then
      (whole ++ '.' :: d :: rest.takeWhile Char.isDigit, rest.dropWhile Char.isDigit)
    else (whole, '.' :: d :: rest)
  | rest => (whole, rest)

def wordToken (word : String) : Token :=
  if word = "as" then .asWord else .word word

namespace Operator

def symbol : Operator → List Char
  | add => ['+']
  | sub => ['-']
  | mul => ['*']
  | div => ['/']
  | eq => ['=', '=']
  | ne => ['!', '=']
  | lt => ['<']
  | le => ['<', '=']
  | gt => ['>']
  | ge => ['>', '=']
  | and => ['&', '&']
  | or => ['|', '|']
  | through => ['.', '.', '=']

end Operator

/-- All symbols; of two that fit, the longer one comes first. -/
def symbols : List (List Char × Token) :=
  [Operator.through, .eq, .ne, .le, .ge, .and, .or, .lt, .gt, .add, .sub, .mul, .div].map
      (fun op => (op.symbol, .operator op)) ++
    [(['!'], .bang), (['&'], .ampersand), (['.'], .dot), (['('], .openParen),
      ([')'], .closeParen), (['['], .openBracket), ([']'], .closeBracket)]

/-- The first token of code that begins with one, and what follows it. -/
def token? : List Char → Option (Token × List Char)
  | [] => none
  | c :: cs =>
    if c.isDigit then
      let (digits, rest) := splitNumeral (c :: cs)
      if rest.head?.any Text.isNameChar then none
      else some (.number (String.ofList digits), rest)
    else if Text.isNameStart c then
      some (wordToken (String.ofList (c :: cs.takeWhile Text.isNameChar)),
        cs.dropWhile Text.isNameChar)
    else if c = '"' then
      (readText .plain cs).map (Prod.map (fun content => .text (String.ofList content)) id)
    else
      symbols.findSome? fun (symbol, token) =>
        if symbol.isPrefixOf (c :: cs) then some (token, (c :: cs).drop symbol.length) else none

/-- The tokens of code from its start to its end. -/
inductive Scans : List Char → List Token → Prop where
  | nil : Scans [] []
  | blank {c cs ts} (blank : c.isWhitespace) (rest : Scans cs ts) : Scans (c :: cs) ts
  | token {cs t rest ts} (first : token? cs = some (t, rest)) (others : Scans rest ts) :
      Scans cs (t :: ts)

theorem token?_blank {c : Char} (blank : c.isWhitespace) (cs : List Char) :
    token? (c :: cs) = none := by
  have cases : c = ' ' ∨ c = '\t' ∨ c = '\r' ∨ c = '\n' := by
    simpa [Char.isWhitespace, or_assoc] using blank
  rcases cases with rfl | rfl | rfl | rfl <;> rfl

theorem Scans.unique {cs : List Char} {ts us : List Token} (first : Scans cs ts)
    (second : Scans cs us) : ts = us := by
  induction first generalizing us with
  | nil =>
      cases second with
      | nil => rfl
      | token first others => cases first
  | blank blank rest ih =>
      cases second with
      | blank _ rest => exact ih rest
      | token first others => rw [token?_blank blank] at first; cases first
  | token first others ih =>
      cases second with
      | nil => cases first
      | blank blank rest => rw [token?_blank blank] at first; cases first
      | token first' others' =>
          obtain ⟨rfl, rfl⟩ := Prod.mk.inj (Option.some.inj (first.symm.trans first'))
          exact congrArg _ (ih others')

/-- Whether code may follow an operand without becoming a part of it. -/
def ends : List Char → Bool
  | [] => true
  | '.' :: c :: _ => !c.isDigit
  | c :: _ => c == ' ' || c == ')'

/-- The code makes up the tokens in front of anything that may follow an operand. -/
def Spells (code : List Char) (ts : List Token) : Prop :=
  ∀ rest us, ends rest → Scans rest us → Scans (code ++ rest) (ts ++ us)

theorem Spells.scans {code : List Char} {ts : List Token} (spells : Spells code ts) :
    Scans code ts := by
  simpa using spells [] [] rfl .nil

theorem not_isNameChar_of_ends {rest : List Char} (ended : ends rest) :
    ¬ rest.head?.any Text.isNameChar := by
  have separators : ∀ c ∈ ['.', ' ', ')'], ¬ Text.isNameChar c :=
    List.any_eq_false.1 (by decide)
  cases rest with
  | nil => decide
  | cons c rest =>
      refine separators c ?_
      by_cases point : c = '.'
      · simp [point]
      · simpa [ends, point] using ended

theorem isDigit_of_isNameStart {c : Char} (start : Text.isNameStart c) : c.isDigit = false := by
  cases digit : c.isDigit with
  | false => rfl
  | true =>
      rcases Text.isNameStart_iff.1 start with letter | rfl
      · simp only [Char.isDigit, Bool.and_eq_true, decide_eq_true_eq, ge_iff_le,
          UInt32.le_iff_toNat_le] at digit
        simp at digit
        omega
      · exact absurd digit (by decide)

theorem token?_word {word rest : List Char} (first : word.head?.any Text.isNameStart)
    (others : word.all Text.isNameChar) (ended : ¬ rest.head?.any Text.isNameChar) :
    token? (word ++ rest) = some (wordToken (String.ofList word), rest) := by
  cases word with
  | nil => cases first
  | cons c word =>
      have start : Text.isNameStart c := by simpa using first
      have named : ∀ d ∈ word, Text.isNameChar d := by
        intro d member
        exact List.all_eq_true.mp others d (List.mem_cons_of_mem c member)
      have digit := isDigit_of_isNameStart start
      have stop : rest.takeWhile Text.isNameChar = [] ∧ rest.dropWhile Text.isNameChar = rest := by
        cases rest with
        | nil => exact ⟨rfl, rfl⟩
        | cons d rest =>
            have other : ¬ Text.isNameChar d := by simpa using ended
            constructor <;> simp [other]
      simp [token?, digit, start, List.takeWhile_append_of_pos named,
        List.dropWhile_append_of_pos named, stop]

end SolanaBlocks.Grammar
