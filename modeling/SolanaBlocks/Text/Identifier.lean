import SolanaBlocks.Text.Letter

/-!
# Identifiers

Names that generated code may use: an ASCII letter or underscore, then letters, digits and
underscores, but neither a lone underscore nor a reserved word. A type name also gives the name of
the variable that holds a value of that type.
-/

namespace SolanaBlocks.Text

/-- Words that generated code cannot use as names, the ones reserved for later included. -/
def reservedWords : List String := [
  "as", "async", "await", "break", "const", "continue", "crate", "dyn", "else", "enum",
  "extern", "false", "fn", "for", "if", "impl", "in", "let", "loop", "match", "mod", "move",
  "mut", "pub", "ref", "return", "self", "Self", "static", "struct", "super", "trait", "true",
  "type", "unsafe", "use", "where", "while", "abstract", "become", "box", "do", "final", "gen",
  "macro", "override", "priv", "try", "typeof", "unsized", "virtual", "yield"]

/-- ASCII letters and the underscore. -/
def isNameStart (c : Char) : Bool := c.isAlpha || c == '_'

/-- ASCII letters, digits and the underscore. -/
def isNameChar (c : Char) : Bool := c.isAlphanum || c == '_'

/-- Whether a text can be used as a name. -/
def isIdentifier (s : String) : Bool :=
  match s.toList with
  | [] => false
  | first :: rest =>
    isNameStart first && s != "_" && rest.all isNameChar && !reservedWords.contains s

/-- The characters that start names, by their codes. -/
theorem isNameStart_iff {c : Char} :
    isNameStart c = true ↔
      (65 ≤ c.toNat ∧ c.toNat ≤ 90 ∨ 97 ≤ c.toNat ∧ c.toNat ≤ 122) ∨ c = '_' := by
  have capital : c.isUpper = true ↔ 65 ≤ c.toNat ∧ c.toNat ≤ 90 := decide_eq_true_iff
  have small : c.isLower = true ↔ 97 ≤ c.toNat ∧ c.toNat ≤ 122 :=
    Bool.and_eq_true_iff.trans (and_congr decide_eq_true_iff decide_eq_true_iff)
  have letter : c.isAlpha = true ↔ c.isUpper = true ∨ c.isLower = true := Bool.or_eq_true_iff
  rw [isNameStart, Bool.or_eq_true_iff, letter, capital, small, beq_iff_eq]

theorem isNameChar_eq (c : Char) : isNameChar c = (isNameStart c || c.isDigit) :=
  Bool.or_right_comm c.isAlpha c.isDigit (c == '_')

theorem isNameChar_of_isNameStart {c : Char} (start : isNameStart c = true) :
    isNameChar c = true := by
  rw [isNameChar_eq, start, Bool.true_or]

theorem isIdentifier_iff {s : String} :
    isIdentifier s = true ↔
      ∃ first rest, s.toList = first :: rest ∧ isNameStart first = true ∧
        (∀ c ∈ rest, isNameChar c = true) ∧ s ≠ "_" ∧ s ∉ reservedWords := by
  unfold isIdentifier
  cases s.toList with
  | nil => simp
  | cons first rest =>
    simp only [Bool.and_eq_true, bne_iff_ne, List.all_eq_true, Bool.not_eq_true',
      List.contains_eq_mem, decide_eq_false_iff_not, List.cons.injEq]
    constructor
    · rintro ⟨⟨⟨start, lone⟩, others⟩, free⟩
      exact ⟨first, rest, ⟨rfl, rfl⟩, start, others, lone, free⟩
    · rintro ⟨_, _, ⟨rfl, rfl⟩, start, others, lone, free⟩
      exact ⟨⟨⟨start, lone⟩, others⟩, free⟩

/-- Whether an underscore separates a capital from the character before it: at the end of a small
letter or digit, and before the last capital of an acronym. -/
def startsWord (previous : Char) (next : Option Char) : Bool :=
  isSmall previous || previous.isDigit || (isCapital previous && next.any isSmall)

/-- The rest of a type name in small letters, where `previous` is the character before it. -/
def snakeAfter (previous : Char) : List Char → List Char
  | [] => []
  | c :: rest =>
    let word := if isCapital c && startsWord previous rest.head? then ['_'] else []
    word ++ toSmall c ++ snakeAfter c rest

/-- The words of a type name in small letters, joined by underscores. -/
def snakeChars : List Char → List Char
  | [] => []
  | c :: rest => toSmall c ++ snakeAfter c rest

/-- The variable name that goes with a type name. -/
def snakeCase (typeName : String) : String :=
  let name := String.ofList (snakeChars typeName.toList)
  if isIdentifier name then name else name ++ "_data"

end SolanaBlocks.Text
