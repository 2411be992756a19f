import SolanaBlocks.Proofs.Grammar.Literals

/-!
# Code as expressions

`Parses code e` says that the grammar reads the code as the expression, and `ReadsAs code tree` that
the only expression it reads the code as is the tree, up to the grouping of conjunctions and
disjunctions. `Reads` is the form of this that survives when code becomes a part of other code; each
way to make code out of code has its lemma.
-/

namespace SolanaBlocks.Grammar

open Decimal (Numeral)

def Parses (code : String) (e : Expr) : Prop :=
  ∃ tokens, Scans code.toList tokens ∧ Derives .range tokens e

theorem Parses.unique {code : String} {e f : Expr} (first : Parses code e)
    (second : Parses code f) : e = f := by
  obtain ⟨ts, scanned, derived⟩ := first
  obtain ⟨us, scanned', derived'⟩ := second
  obtain rfl := scanned.unique scanned'
  exact derived.unique derived'

def ReadsAs (code : String) (tree : Expr) : Prop :=
  ∃ read, Regroups tree read ∧ ∀ e, Parses code e ↔ e = read

theorem readsAs_of_scans {code : String} {tree read : Expr} {tokens : List Token}
    (regroups : Regroups tree read) (scanned : Scans code.toList tokens)
    (derived : Derives .range tokens read) : ReadsAs code tree := by
  have parses : Parses code read := ⟨tokens, scanned, derived⟩
  refine ⟨read, regroups, fun e => ⟨fun other => other.unique parses, ?_⟩⟩
  rintro rfl
  exact parses

/-! ## Parts of code -/

namespace Spells

variable {code tail : List Char} {t : Token} {ts us : List Token}

theorem append (first : Spells code ts) (separate : ∀ rest, ends (tail ++ rest))
    (second : Spells tail us) : Spells (code ++ tail) (ts ++ us) := by
  intro rest vs ended scanned
  rw [List.append_assoc, List.append_assoc]
  exact first _ _ (separate rest) (second rest vs ended scanned)

theorem prepend (symbol : List Char)
    (first : ∀ rest, token? (symbol ++ (code ++ rest)) = some (t, code ++ rest))
    (spells : Spells code ts) : Spells (symbol ++ code) (t :: ts) := by
  intro rest us ended scanned
  rw [List.append_assoc]
  exact .token (first rest) (spells rest us ended scanned)

theorem blank (spells : Spells code ts) : Spells (' ' :: code) ts :=
  fun rest us ended scanned => .blank rfl (spells rest us ended scanned)

theorem one (only : ∀ rest, ends rest → token? (code ++ rest) = some (t, rest)) :
    Spells code [t] :=
  fun rest _ ended scanned => .token (only rest ended) scanned

end Spells

/-- Whether code cannot be taken for the rest of a symbol in front of it. -/
def opens : List Char → Bool
  | [] => false
  | c :: _ => c != '=' && c != '&'

theorem opens_append {code : List Char} (opened : opens code) (tail : List Char) :
    opens (code ++ tail) := by
  cases code with
  | nil => cases opened
  | cons c code => exact opened

/-- What makes a text a name to the lexer and to the grammar. -/
theorem word_of_isIdentifier {s : String} (name : Text.isIdentifier s) :
    s.toList.head?.any Text.isNameStart ∧ s.toList.all Text.isNameChar ∧
      wordToken s = .word s ∧ (Token.word s).leaf? = some (.name s) := by
  obtain ⟨c, cs, spelled, start, others, lone, free⟩ := Text.isIdentifier_iff.1 name
  have no : ∀ {w}, w ∈ Text.reservedWords → s ≠ w := by
    rintro w reserved rfl
    exact free reserved
  rw [spelled]
  refine ⟨start, ?_, if_neg (no (by decide)), ?_⟩
  · rw [List.all_cons, Text.isNameChar_of_isNameStart start, Bool.true_and]
    exact List.all_eq_true.2 others
  · have true_ : s ≠ "true" := no (by decide)
    have false_ : s ≠ "false" := no (by decide)
    simp [Token.leaf?, true_, false_, lone, free]

/-! ## Readings -/

/-- The code can stand where an expression of the level is expected, and is then read as the tree,
up to regrouping. -/
def Reads (l : Level) (code : List Char) (tree : Expr) : Prop :=
  ∃ read tokens, Regroups tree read ∧ Derives l tokens read ∧ Spells code tokens ∧ opens code

namespace Reads

variable {l m : Level} {code left right : List Char} {tree a b : Expr}

theorem loosen (reads : Reads l code tree) (tighter : l ≤ m) : Reads m code tree := by
  obtain ⟨read, tokens, regroups, derived, spells, opened⟩ := reads
  exact ⟨read, tokens, regroups, derived.loosen tighter, spells, opened⟩

theorem readsAs {code : String} (reads : Reads .range code.toList tree) : ReadsAs code tree := by
  obtain ⟨read, tokens, regroups, derived, spells, opened⟩ := reads
  exact readsAs_of_scans regroups spells.scans derived

theorem leaf {t : Token} (leaf : t.leaf? = some tree)
    (only : ∀ rest, ends rest → token? (code ++ rest) = some (t, rest)) (opened : opens code) :
    Reads .primary code tree :=
  ⟨tree, [t], .refl tree, .leaf leaf, .one only, opened⟩

theorem numeral {digits : List Char} (shape : Numeral digits) :
    Reads .primary digits (.number false (String.ofList digits)) := by
  refine leaf rfl (fun rest => token?_numeral shape) ?_
  obtain ⟨d, rest, rfl, digit⟩ := shape.head
  have other : ∀ c ∈ ['=', '&'], d ≠ c := by
    rintro c member rfl
    have none : ∀ c ∈ ['=', '&'], ¬ c.isDigit := List.any_eq_false.1 (by decide)
    exact none _ member digit
  simp [opens, other]

theorem negative {digits : List Char} (shape : Numeral digits) :
    Reads .unary ('-' :: digits) (.number true (String.ofList digits)) := by
  have spells : Spells ('-' :: digits) [Sign.minus.token, .number (String.ofList digits)] :=
    .prepend ['-'] (fun rest => rfl) (.one fun rest => token?_numeral shape)
  have derived : Derives .unary [Sign.minus.token, .number (String.ofList digits)]
      (Sign.minus.apply (.number false (String.ofList digits))) :=
    .signed .minus (.loosen (by decide) (.leaf rfl))
  exact ⟨_, _, .refl _, derived, spells, rfl⟩

theorem name {s : String} (name : Text.isIdentifier s) : Reads .primary s.toList (.name s) := by
  obtain ⟨start, others, word, leafed⟩ := word_of_isIdentifier name
  refine leaf leafed (fun rest ended => ?_) ?_
  · rw [token?_word start others (not_isNameChar_of_ends ended), String.ofList_toList, word]
  · cases spelled : s.toList with
    | nil => simp [spelled] at start
    | cons c cs =>
        have none : ∀ c ∈ ['=', '&'], ¬ Text.isNameStart c :=
          List.any_eq_false.1 (by decide)
        have other : ∀ d ∈ ['=', '&'], c ≠ d := by
          rintro d member rfl
          exact none _ member (by simpa [spelled] using start)
        simp [opens, other]

theorem text (s : String) : Reads .primary (Text.quote s).toList (.text s) := by
  refine leaf (t := .text s) rfl (fun rest _ => ?_) ?_
  · rw [Text.quote, String.toList_ofList, token?_quote, String.ofList_toList]
  · rw [Text.quote, String.toList_ofList]
    rfl

theorem truth (value : Bool) : Reads .primary (toString value).toList (.truth value) := by
  cases value with
  | false =>
      refine leaf (t := .word "false") rfl (fun rest ended => ?_) (by decide)
      exact token?_word (by decide) (by decide) (not_isNameChar_of_ends ended)
  | true =>
      refine leaf (t := .word "true") rfl (fun rest ended => ?_) (by decide)
      exact token?_word (by decide) (by decide) (not_isNameChar_of_ends ended)

theorem emptyList : Reads .primary ['[', ']'] .emptyList := by
  refine ⟨_, _, .refl _, .emptyList, ?_, rfl⟩
  exact .prepend ['['] (fun rest => rfl) (.one fun rest ended => rfl)

theorem group (reads : Reads .range code tree) :
    Reads .primary ('(' :: (code ++ [')'])) tree := by
  obtain ⟨read, tokens, regroups, derived, spells, opened⟩ := reads
  refine ⟨read, _, regroups, .group derived, ?_, rfl⟩
  exact .prepend ['('] (fun rest => rfl)
    (spells.append (fun rest => rfl) (.one fun rest ended => rfl))

theorem not (reads : Reads .unary code tree) :
    Reads .unary ('!' :: code) (.signed .not tree) := by
  obtain ⟨read, tokens, regroups, derived, spells, opened⟩ := reads
  have negated : Spells ('!' :: code) (.bang :: tokens) := by
    refine .prepend ['!'] (fun rest => ?_) spells
    cases code with
    | nil => cases opened
    | cons c code =>
        have other : '=' ≠ c := by
          rintro rfl
          cases opened
        have start : Text.isNameStart '!' = false := by decide
        simp [token?, symbols, Operator.symbol, start, List.findSome?, other]
  exact ⟨_, _, .signed .not regroups, .signed .not derived, negated, rfl⟩

/-- Borrowed code reads as a borrow of what the code reads as. Its ampersand would run together with
one in front of it, so it does not go into other code. -/
theorem readsAs_borrow {whole : String} (reads : Reads .unary code tree)
    (spelled : whole.toList = '&' :: code) : ReadsAs whole (.signed .borrow tree) := by
  obtain ⟨read, tokens, regroups, derived, spells, opened⟩ := reads
  have borrowed : Spells ('&' :: code) (.ampersand :: tokens) := by
    refine .prepend ['&'] (fun rest => ?_) spells
    cases code with
    | nil => cases opened
    | cons c code =>
        have other : '&' ≠ c := by
          rintro rfl
          cases opened
        have start : Text.isNameStart '&' = false := by decide
        simp [token?, symbols, Operator.symbol, start, List.findSome?, other]
  refine readsAs_of_scans (.signed .borrow regroups) ?_ (.loosen (by decide) (.signed .borrow derived))
  rw [spelled]
  exact borrowed.scans

theorem cast (reads : Reads .cast code tree) {type : String} (name : Text.isIdentifier type) :
    Reads .cast (code ++ ' ' :: ('a' :: 's' :: ' ' :: type.toList)) (.cast tree type) := by
  obtain ⟨read, tokens, regroups, derived, spells, opened⟩ := reads
  obtain ⟨start, others, word, -⟩ := word_of_isIdentifier name
  refine ⟨_, _, .cast type regroups, .cast type derived, ?_, opens_append opened _⟩
  have named : Spells type.toList [.word type] := .one fun rest ended => by
    rw [token?_word start others (not_isNameChar_of_ends ended), String.ofList_toList, word]
  exact spells.append (fun rest => rfl) (.blank (.prepend ['a', 's'] (fun rest => rfl) (.blank named)))

theorem spells_operator (op : Operator) {ts us : List Token} (first : Spells left ts)
    (second : Spells right us) :
    Spells (left ++ ' ' :: (op.symbol ++ ' ' :: right)) (ts ++ .operator op :: us) := by
  refine first.append (fun rest => rfl) (.blank (.prepend op.symbol (fun rest => ?_) (.blank second)))
  cases op <;> rfl

theorem binary (op : Operator) (first : Reads op.leftLevel left a)
    (second : Reads op.rightLevel right b) :
    Reads op.level (left ++ ' ' :: (op.symbol ++ ' ' :: right)) (.binary op a b) := by
  obtain ⟨read, ts, regroups, derived, spells, opened⟩ := first
  obtain ⟨read', us, regroups', derived', spells', opened'⟩ := second
  exact ⟨_, _, .binary op regroups regroups', .binary op derived derived',
    spells_operator op spells spells', opens_append opened _⟩

theorem flat {op : Operator} (flat : op.isFlat) (first : Reads op.level left a)
    (second : Reads op.level right b) :
    Reads op.level (left ++ ' ' :: (op.symbol ++ ' ' :: right)) (.binary op a b) := by
  obtain ⟨read, ts, regroups, derived, spells, opened⟩ := first
  obtain ⟨read', us, regroups', derived', spells', opened'⟩ := second
  obtain ⟨e, whole, joined⟩ := derived.flat flat derived' (Nat.le_refl _)
  exact ⟨e, _, (Regroups.binary op regroups regroups').trans joined, whole,
    spells_operator op spells spells', opens_append opened _⟩

/-- A range has no blanks around its operator. -/
theorem through (first : Reads .disjunction left a) (second : Reads .disjunction right b) :
    Reads .range (left ++ '.' :: '.' :: '=' :: right) (.binary .through a b) := by
  obtain ⟨read, ts, regroups, derived, spells, opened⟩ := first
  obtain ⟨read', us, regroups', derived', spells', opened'⟩ := second
  refine ⟨_, _, .binary .through regroups regroups', .binary .through derived derived', ?_,
    opens_append opened _⟩
  exact spells.append (fun rest => rfl) (.prepend ['.', '.', '='] (fun rest => rfl) spells')

/-- The tokens of a method call up to its parenthesis. -/
theorem spells_method {method : String} (name : Text.isIdentifier method) {ts us : List Token}
    (receiver : Spells left ts) (argument : Spells right us) :
    Spells (left ++ '.' :: (method.toList ++ '(' :: right))
      (ts ++ .dot :: .word method :: .openParen :: us) := by
  obtain ⟨start, others, word, -⟩ := word_of_isIdentifier name
  have parenthesis : ∀ cs : List Char, ¬ ('(' :: cs).head?.any Text.isNameChar :=
    fun cs => (by decide : ¬ Text.isNameChar '(')
  have named : Spells (method.toList ++ '(' :: right) (.word method :: .openParen :: us) := by
    refine .prepend method.toList (fun rest => ?_) (.prepend ['('] (fun rest => rfl) argument)
    rw [List.cons_append, token?_word start others (parenthesis _), String.ofList_toList, word]
  cases spelled : method.toList with
  | nil => simp [spelled] at start
  | cons c cs =>
      have first : Text.isNameStart c := by simpa [spelled] using start
      have other : '.' ≠ c := by
        rintro rfl
        exact absurd first (by decide)
      rw [spelled] at named
      refine receiver.append (fun rest => by simp [ends, isDigit_of_isNameStart first]) ?_
      refine .prepend ['.'] (fun rest => ?_) named
      have start : Text.isNameStart '.' = false := by decide
      simp [token?, symbols, Operator.symbol, start, List.findSome?, other]

theorem call (reads : Reads .primary code tree) {method : String}
    (name : Text.isIdentifier method) :
    Reads .primary (code ++ '.' :: (method.toList ++ ['(', ')'])) (.call tree method) := by
  obtain ⟨read, tokens, regroups, derived, spells, opened⟩ := reads
  refine ⟨_, _, .call method regroups, .call method derived, ?_, opens_append opened _⟩
  exact spells_method name spells (.one fun rest ended => rfl)

theorem callWith (receiver : Reads .primary left a) (argument : Reads .range right b)
    {method : String} (name : Text.isIdentifier method) :
    Reads .primary (left ++ '.' :: (method.toList ++ '(' :: (right ++ [')'])))
      (.callWith a method b) := by
  obtain ⟨read, ts, regroups, derived, spells, opened⟩ := receiver
  obtain ⟨read', us, regroups', derived', spells', opened'⟩ := argument
  refine ⟨_, _, .callWith method regroups regroups', .callWith method derived derived', ?_,
    opens_append opened _⟩
  exact spells_method name spells (spells'.append (fun rest => rfl) (.one fun rest ended => rfl))

end Reads

end SolanaBlocks.Grammar
