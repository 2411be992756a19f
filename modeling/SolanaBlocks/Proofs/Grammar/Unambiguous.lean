import SolanaBlocks.Proofs.Grammar.Basic

/-!
# The grammar is unambiguous

A machine reads tokens from left to right. It holds one operand, or waits for one, and has a stack
of what waits for the operand to be complete: signs, operators with their left operands, open
parentheses. Before the machine takes a token, it completes every frame that binds at least as
tightly. It has no choice anywhere, and whatever the grammar derives is what the machine finds, so
the grammar derives one expression at most.
-/

namespace SolanaBlocks.Grammar

/-- What waits for the operand on its right. -/
inductive Frame where
  | sign (sign : Sign)
  | operator (op : Operator) (left : Expr)
  | group
  | argument (receiver : Expr) (method : String)

namespace Frame

/-- The level of what a frame completes; open parentheses are looser than anything else. -/
def level : Frame → Level
  | sign _ => .unary
  | operator op _ => op.level
  | _ => .range + 1

def complete : Frame → Expr → Expr
  | sign s, e => s.apply e
  | operator op left, e => .binary op left e
  | group, e => e
  | argument receiver method, e => .callWith receiver method e

/-- The level that an operand on the right of a frame may have. -/
def Admits : Frame → Level → Prop
  | sign _, l => l ≤ .unary
  | operator op _, l => l < op.level
  | _, l => l ≤ .range

theorem Admits.mono {frame : Frame} {l m : Level} (admits : frame.Admits m) (tighter : l ≤ m) :
    frame.Admits l := by
  cases frame with
  | operator op left => exact Nat.lt_of_le_of_lt tighter admits
  | _ => exact Nat.le_trans tighter admits

theorem Admits.not_level_le {frame : Frame} {l bound : Level} (admits : frame.Admits l)
    (loose : Level.cast ≤ l) (tighter : bound ≤ l) (limited : bound ≤ Level.range) :
    ¬ frame.level ≤ bound := by
  intro below
  cases frame with
  | sign s => exact absurd (Nat.le_trans loose admits) (by decide)
  | operator op left =>
      exact Nat.lt_irrefl _ (Nat.lt_of_lt_of_le admits (Nat.le_trans below tighter))
  | _ => exact Nat.not_succ_le_self _ (Nat.le_trans below limited)

theorem primary_lt_level (frame : Frame) : Level.primary < frame.level := by
  cases frame with
  | operator op left => exact Nat.lt_trans (by decide) op.cast_lt_level
  | _ => exact Nat.succ_pos _

end Frame

/-- Completes all frames up to `bound`. -/
def reduce (bound : Level) : List Frame → Expr → List Frame × Expr
  | [], e => ([], e)
  | frame :: stack, e =>
    if frame.level ≤ bound then reduce bound stack (frame.complete e) else (frame :: stack, e)

/-- The stack admits an operand of some level. -/
def Admits (stack : List Frame) (l : Level) : Prop :=
  ∀ frame ∈ stack.head?, frame.Admits l

theorem Admits.mono {stack : List Frame} {l m : Level} (admits : Admits stack m)
    (tighter : l ≤ m) : Admits stack l :=
  fun frame top => (admits frame top).mono tighter

theorem Admits.reduce_eq {stack : List Frame} {l bound : Level} {e : Expr}
    (admits : Admits stack l) (loose : Level.cast ≤ l) (tighter : bound ≤ l)
    (limited : bound ≤ Level.range) : reduce bound stack e = (stack, e) := by
  cases stack with
  | nil => rfl
  | cons frame stack =>
      exact if_neg ((admits frame rfl).not_level_le loose tighter limited)

/-- The machine, with the operand it holds. -/
def run : List Token → List Frame → Option Expr → Option Expr
  | [], stack, operand =>
    match operand with
    | none => none
    | some e =>
      match reduce .range stack e with
      | ([], e) => some e
      | _ => none
  | .closeParen :: ts, stack, operand =>
    match operand with
    | none =>
      match stack with
      | .argument receiver method :: stack => run ts stack (some (.call receiver method))
      | _ => none
    | some e =>
      match reduce .range stack e with
      | (frame :: stack, e) => run ts stack (some (frame.complete e))
      | _ => none
  | .operator op :: ts, stack, operand =>
    match operand with
    | none => if op = .sub then run ts (.sign .minus :: stack) none else none
    | some e =>
      let reduced := reduce op.leftLevel stack e
      run ts (.operator op reduced.2 :: reduced.1) none
  | .asWord :: .word type :: ts, stack, some e =>
    let reduced := reduce .cast stack e
    run ts reduced.1 (some (.cast reduced.2 type))
  | .dot :: .word method :: .openParen :: ts, stack, some e =>
    run ts (.argument e method :: stack) none
  | .bang :: ts, stack, none => run ts (.sign .not :: stack) none
  | .ampersand :: ts, stack, none => run ts (.sign .borrow :: stack) none
  | .openParen :: ts, stack, none => run ts (.group :: stack) none
  | .openBracket :: .closeBracket :: ts, stack, none => run ts stack (some .emptyList)
  | .number digits :: ts, stack, none => run ts stack (some (.number false digits))
  | .text content :: ts, stack, none => run ts stack (some (.text content))
  | .word w :: ts, stack, none =>
    match Token.leaf? (.word w) with
    | some e => run ts stack (some e)
    | none => none
  | _, _, _ => none

theorem run_leaf {token : Token} {e : Expr} (leaf : token.leaf? = some e) (ts : List Token)
    (stack : List Frame) : run (token :: ts) stack none = run ts stack (some e) := by
  cases token with
  | number digits => cases leaf; rfl
  | text content => cases leaf; rfl
  | word w => rw [run, leaf]
  | _ => cases leaf

theorem run_sign (sign : Sign) (ts : List Token) (stack : List Frame) :
    run (sign.token :: ts) stack none = run ts (.sign sign :: stack) none := by
  cases sign <;> rfl

/-- The loosest frames that are complete when the rest of the tokens is read. -/
def reach : List Token → Level
  | .dot :: _ => .primary
  | .asWord :: _ => .cast
  | .operator op :: _ => op.leftLevel
  | _ => .range

/-- A frame that the next token completes may as well be completed at once. -/
theorem run_complete {frame : Frame} {rest : List Token} (stack : List Frame) (e : Expr)
    (complete : frame.level ≤ reach rest) :
    run rest (frame :: stack) (some e) = run rest stack (some (frame.complete e)) := by
  have reduced : ∀ bound, frame.level ≤ bound →
      reduce bound (frame :: stack) e = reduce bound stack (frame.complete e) :=
    fun bound binds => if_pos binds
  cases rest with
  | nil => simp only [run, reduced .range complete]
  | cons token rest =>
      cases token with
      | dot => exact absurd complete (Nat.not_le_of_lt frame.primary_lt_level)
      | closeParen => simp only [run, reduced .range complete]
      | operator op => simp only [run, reduced op.leftLevel complete]
      | asWord =>
          cases rest with
          | nil => rfl
          | cons token rest =>
              cases token with
              | word w => simp only [run, reduced .cast complete]
              | _ => rfl
      | openBracket =>
          cases rest with
          | nil => rfl
          | cons token rest => cases token <;> rfl
      | _ => rfl

/-- The machine finds what the grammar derives and goes on from there. -/
theorem Derives.run_append {l : Level} {ts : List Token} {e : Expr} (derived : Derives l ts e)
    {stack : List Frame} {rest : List Token} (admits : Admits stack l) (stops : l ≤ reach rest) :
    run (ts ++ rest) stack none = run rest stack (some e) := by
  induction derived generalizing stack rest with
  | leaf leaf => exact run_leaf leaf rest stack
  | emptyList => rfl
  | @group ts e inner ih =>
      calc run (Token.openParen :: (ts ++ [.closeParen]) ++ rest) stack none
          = run (ts ++ .closeParen :: rest) (.group :: stack) none := by simp [run]
        _ = run (.closeParen :: rest) (.group :: stack) (some e) :=
            ih (by rintro _ ⟨⟩; exact Nat.le_refl _) (Nat.le_refl _)
        _ = run rest stack (some e) := rfl
  | @call ts e method receiver ih =>
      have read : run (ts ++ .dot :: .word method :: .openParen :: .closeParen :: rest) stack none =
          _ := ih admits (Nat.le_refl _)
      simpa [run] using read
  | @callWith ts us e a method receiver argument ihReceiver ihArgument =>
      have read : run (ts ++ .dot :: .word method :: .openParen :: (us ++ .closeParen :: rest))
          stack none = _ := ihReceiver admits (Nat.le_refl _)
      have inner : run (us ++ .closeParen :: rest) (.argument e method :: stack) none =
          run (.closeParen :: rest) (.argument e method :: stack) (some a) :=
        ihArgument (by rintro _ ⟨⟩; exact Nat.le_refl _) (Nat.le_refl _)
      have closed : run (.closeParen :: rest) (.argument e method :: stack) (some a) =
          run rest stack (some (.callWith e method a)) := rfl
      rw [closed] at inner
      simpa [run, inner] using read
  | @signed ts e sign operand ih =>
      calc run (sign.token :: ts ++ rest) stack none
          = run (ts ++ rest) (.sign sign :: stack) none := run_sign sign _ stack
        _ = run rest (.sign sign :: stack) (some e) :=
            ih (by rintro _ ⟨⟩; exact Nat.le_refl _) stops
        _ = run rest stack (some (sign.apply e)) := run_complete stack e stops
  | @cast ts e type operand ih =>
      have read : run (ts ++ .asWord :: .word type :: rest) stack none = _ :=
        ih admits (Nat.le_refl _)
      have kept : reduce .cast stack e = (stack, e) :=
        admits.reduce_eq (Nat.le_refl _) (Nat.le_refl _) (by decide)
      simpa [run, kept] using read
  | @binary ts us l r op left right ihLeft ihRight =>
      have read : run (ts ++ .operator op :: (us ++ rest)) stack none = _ :=
        ihLeft (admits.mono op.leftLevel_le) (Nat.le_refl _)
      have kept : reduce op.leftLevel stack l = (stack, l) :=
        admits.reduce_eq (Nat.le_of_lt op.cast_lt_level) op.leftLevel_le
          (Nat.le_trans op.leftLevel_le op.level_le_range)
      have second : run (us ++ rest) (.operator op l :: stack) none =
          run rest (.operator op l :: stack) (some r) :=
        ihRight (by rintro _ ⟨⟩; exact op.rightLevel_lt) 
          (Nat.le_trans (Nat.le_of_lt op.rightLevel_lt) stops)
      calc run (ts ++ .operator op :: us ++ rest) stack none
          = run (us ++ rest) (.operator op l :: stack) none := by simpa [run, kept] using read
        _ = run rest (.operator op l :: stack) (some r) := second
        _ = run rest stack (some (.binary op l r)) := run_complete stack r stops
  | loosen tighter _ ih => exact ih (admits.mono tighter) (Nat.le_trans tighter stops)

theorem Derives.unique {ts : List Token} {e f : Expr} (first : Derives .range ts e)
    (second : Derives .range ts f) : e = f := by
  have found : ∀ {e}, Derives .range ts e → run ts [] none = some e := by
    intro e derived
    have read : run (ts ++ []) [] none = run [] [] (some _) :=
      derived.run_append (fun frame top => by cases top) (Nat.le_refl _)
    rw [List.append_nil] at read
    exact read
  exact Option.some.inj ((found first).symm.trans (found second))

end SolanaBlocks.Grammar
