import SolanaBlocks.Text.Identifier

/-!
# The grammar of expressions

What an expression in generated code means is settled by the grammar that reads it, not by the
emitter that writes it. This is that grammar, over tokens: literals, names and groups bind
tightest, then signs, casts, products, sums, comparisons, conjunctions, disjunctions and ranges.
Products, sums, conjunctions and disjunctions chain to the left; comparisons and ranges do not
chain. Parentheses group and leave no trace in the expression, and a sign in front of a numeral
belongs to the number.

Runs of one conjunction or disjunction may be grouped in any way without a change of meaning, which
is what `Regroups` says.
-/

namespace SolanaBlocks.Grammar

/-- Operators between two operands; the last is the range with both ends. -/
inductive Operator where
  | add | sub | mul | div
  | eq | ne | lt | le | gt | ge
  | and | or
  | through
deriving DecidableEq, Repr

/-- Operators in front of an operand. -/
inductive Sign where
  | minus | not | borrow
deriving DecidableEq, Repr

inductive Expr where
  | number (negative : Bool) (digits : String)
  | truth (value : Bool)
  | text (content : String)
  | name (name : String)
  | emptyList
  | signed (sign : Sign) (operand : Expr)
  | binary (op : Operator) (left right : Expr)
  | cast (operand : Expr) (type : String)
  | call (receiver : Expr) (method : String)
  | callWith (receiver : Expr) (method : String) (argument : Expr)
deriving DecidableEq, Repr

/-- The smallest units of code. The minus of a number and that of a difference are one token. -/
inductive Token where
  | number (digits : String)
  | word (word : String)
  | text (content : String)
  | operator (op : Operator)
  | bang | ampersand | dot | asWord
  | openParen | closeParen | openBracket | closeBracket
deriving DecidableEq, Repr

/-- How loosely the outermost operator of an expression binds. -/
abbrev Level := Nat

namespace Level

def primary : Level := 0
def unary : Level := 1
def cast : Level := 2
def product : Level := 3
def sum : Level := 4
def comparison : Level := 5
def conjunction : Level := 6
def disjunction : Level := 7
def range : Level := 8

end Level

namespace Operator

def level : Operator → Level
  | mul | div => .product
  | add | sub => .sum
  | eq | ne | lt | le | gt | ge => .comparison
  | and => .conjunction
  | or => .disjunction
  | through => .range

/-- Whether the left operand may be an expression of the same level. -/
def chains : Operator → Bool
  | eq | ne | lt | le | gt | ge | through => false
  | _ => true

/-- Whether grouping makes no difference in a run of the operator. -/
def isFlat : Operator → Bool
  | and | or => true
  | _ => false

def leftLevel (op : Operator) : Level := if op.chains then op.level else op.level - 1

def rightLevel (op : Operator) : Level := op.level - 1

theorem leftLevel_le (op : Operator) : op.leftLevel ≤ op.level := by
  cases op <;> decide

theorem rightLevel_lt (op : Operator) : op.rightLevel < op.level := by
  cases op <;> decide

theorem cast_lt_level (op : Operator) : Level.cast < op.level := by
  cases op <;> decide

theorem level_le_range (op : Operator) : op.level ≤ Level.range := by
  cases op <;> decide

theorem eq_of_level_eq {op other : Operator} (flat : op.isFlat) (same : other.level = op.level) :
    other = op := by
  cases op <;> cases flat <;> cases other <;> first | rfl | cases same

theorem leftLevel_of_isFlat {op : Operator} (flat : op.isFlat) : op.leftLevel = op.level := by
  cases op <;> cases flat <;> rfl

end Operator

namespace Sign

def token : Sign → Token
  | minus => .operator .sub
  | not => .bang
  | borrow => .ampersand

/-- A sign in front of an expression. A minus makes one negative number with the numeral behind
it. -/
def apply : Sign → Expr → Expr
  | minus, .number false digits => .number true digits
  | sign, operand => .signed sign operand

end Sign

/-- The expression that a token is by itself, if it is one. -/
def Token.leaf? : Token → Option Expr
  | number digits => some (.number false digits)
  | text content => some (.text content)
  | word w =>
    if w = "true" then some (.truth true)
    else if w = "false" then some (.truth false)
    else if w = "_" ∨ w ∈ Text.reservedWords then none
    else some (.name w)
  | _ => none

/-- `Derives level tokens e` reads the tokens as an expression that binds at least as tightly as
`level`. -/
inductive Derives : Level → List Token → Expr → Prop where
  | leaf {token e} (leaf : token.leaf? = some e) : Derives .primary [token] e
  | emptyList : Derives .primary [.openBracket, .closeBracket] .emptyList
  | group {ts e} (inner : Derives .range ts e) :
      Derives .primary (.openParen :: (ts ++ [.closeParen])) e
  | call {ts e} (method : String) (receiver : Derives .primary ts e) :
      Derives .primary (ts ++ [.dot, .word method, .openParen, .closeParen]) (.call e method)
  | callWith {ts us e a} (method : String) (receiver : Derives .primary ts e)
      (argument : Derives .range us a) :
      Derives .primary (ts ++ .dot :: .word method :: .openParen :: (us ++ [.closeParen]))
        (.callWith e method a)
  | signed {ts e} (sign : Sign) (operand : Derives .unary ts e) :
      Derives .unary (sign.token :: ts) (sign.apply e)
  | cast {ts e} (type : String) (operand : Derives .cast ts e) :
      Derives .cast (ts ++ [.asWord, .word type]) (.cast e type)
  | binary {ts us l r} (op : Operator) (left : Derives op.leftLevel ts l)
      (right : Derives op.rightLevel us r) :
      Derives op.level (ts ++ .operator op :: us) (.binary op l r)
  | loosen {l m ts e} (tighter : l ≤ m) (inner : Derives l ts e) : Derives m ts e

/-- The same expression up to the grouping inside runs of one conjunction or disjunction. -/
inductive Regroups : Expr → Expr → Prop where
  | refl (e : Expr) : Regroups e e
  | symm {e f} (there : Regroups e f) : Regroups f e
  | trans {e f g} (first : Regroups e f) (second : Regroups f g) : Regroups e g
  | assoc {op : Operator} (flat : op.isFlat) (a b c : Expr) :
      Regroups (.binary op (.binary op a b) c) (.binary op a (.binary op b c))
  | signed (sign : Sign) {e f} (operand : Regroups e f) : Regroups (.signed sign e) (.signed sign f)
  | binary (op : Operator) {l l' r r'} (left : Regroups l l') (right : Regroups r r') :
      Regroups (.binary op l r) (.binary op l' r')
  | cast (type : String) {e f} (operand : Regroups e f) : Regroups (.cast e type) (.cast f type)
  | call (method : String) {e f} (receiver : Regroups e f) : Regroups (.call e method) (.call f method)
  | callWith (method : String) {e f a b} (receiver : Regroups e f) (argument : Regroups a b) :
      Regroups (.callWith e method a) (.callWith f method b)

/-- Two readings of the operands of a flat operator make a reading of the whole, whichever way the
right one is grouped. -/
theorem Derives.flat {op : Operator} (flat : op.isFlat) {ts us : List Token} {l r : Expr}
    {m : Level} (left : Derives op.level ts l) (right : Derives m us r) (bound : m ≤ op.level) :
    ∃ e, Derives op.level (ts ++ .operator op :: us) e ∧ Regroups (.binary op l r) e := by
  -- only a right operand with the same operator outermost has to be taken apart
  have tight : ∀ {m us r}, Derives m us r → m < op.level →
      ∃ e, Derives op.level (ts ++ .operator op :: us) e ∧ Regroups (.binary op l r) e := by
    intro m us r right below
    have left' : Derives op.leftLevel ts l := by
      rw [Operator.leftLevel_of_isFlat flat]
      exact left
    exact ⟨_, .binary op left' (right.loosen (Nat.le_pred_of_lt below)), .refl _⟩
  have positive : ∀ {m}, m ≤ Level.cast → m < op.level :=
    fun below => Nat.lt_of_le_of_lt below op.cast_lt_level
  induction right with
  | leaf leaf => exact tight (.leaf leaf) (positive (by decide))
  | emptyList => exact tight .emptyList (positive (by decide))
  | group inner => exact tight (.group inner) (positive (by decide))
  | call method receiver => exact tight (.call method receiver) (positive (by decide))
  | callWith method receiver argument =>
      exact tight (.callWith method receiver argument) (positive (by decide))
  | signed sign operand => exact tight (.signed sign operand) (positive (by decide))
  | cast type operand => exact tight (.cast type operand) (positive (by decide))
  | @binary us vs a b other first second ihFirst _ =>
      rcases Nat.lt_or_eq_of_le bound with below | same
      · exact tight (.binary other first second) below
      · obtain rfl := Operator.eq_of_level_eq flat same
        obtain ⟨e, derived, regrouped⟩ := ihFirst other.leftLevel_le
        have whole := Derives.binary other
          (by rw [Operator.leftLevel_of_isFlat flat]; exact derived) second
        refine ⟨.binary other e b, ?_, ?_⟩
        · simpa using whole
        · exact (Regroups.symm (.assoc flat l a b)).trans (.binary other regrouped (.refl b))
  | loosen tighter _ ih => exact ih (Nat.le_trans tighter bound)

end SolanaBlocks.Grammar
