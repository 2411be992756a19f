import Mathlib.Data.List.TakeWhile
import SolanaBlocks.Proofs.Grammar.Reading

/-!
# How many parentheses an expression needs

An operand needs parentheses where it binds more loosely than its place allows, and a call has a pair
of its own. The sum of these is a lower bound for all code that the grammar reads as the expression,
however runs of one conjunction or disjunction are grouped. So no pair can be taken out of code that
keeps to the bound.

In code, a parenthesis is one that stands outside of text literals.
-/

namespace SolanaBlocks.Grammar

/-! ## Expressions -/

namespace Operator

/-- The loosest level of a left operand without parentheses, where grouping in runs of a flat operator
makes no difference. -/
def leftRoom (op : Operator) : Level := if op.isFlat then op.level else op.leftLevel

def rightRoom (op : Operator) : Level := if op.isFlat then op.level else op.rightLevel

theorem leftLevel_le_leftRoom (op : Operator) : op.leftLevel ≤ op.leftRoom := by
  cases op <;> decide

theorem rightLevel_le_rightRoom (op : Operator) : op.rightLevel ≤ op.rightRoom := by
  cases op <;> decide

end Operator

/-- The pairs around something of a level where another level is the loosest. -/
def pairs (allowed level : Level) : Nat := if level ≤ allowed then 0 else 1

namespace Expr

/-- The level of the outermost operator. -/
def level : Expr → Level
  | number true _ | signed _ _ => .unary
  | binary op _ _ => op.level
  | cast _ _ => .cast
  | _ => .primary

/-- The pairs inside an expression that are needed. -/
def inner : Expr → Nat
  | signed _ e => e.inner + pairs .unary e.level
  | binary op l r => l.inner + pairs op.leftRoom l.level + (r.inner + pairs op.rightRoom r.level)
  | cast e _ => e.inner + pairs .cast e.level
  | call e _ => e.inner + pairs .primary e.level + 1
  | callWith e _ a =>
    e.inner + pairs .primary e.level + (a.inner + pairs .range a.level) + 1
  | _ => 0

/-- The pairs that are needed where a level is the loosest. -/
def need (e : Expr) (allowed : Level) : Nat := e.inner + pairs allowed e.level

section

variable (allowed : Level)

theorem need_signed (sign : Sign) (e : Expr) :
    (signed sign e).need allowed = e.need .unary + pairs allowed .unary := rfl

theorem need_binary (op : Operator) (l r : Expr) :
    (binary op l r).need allowed =
      l.need op.leftRoom + r.need op.rightRoom + pairs allowed op.level := rfl

theorem need_cast (e : Expr) (type : String) :
    (cast e type).need allowed = e.need .cast + pairs allowed .cast := rfl

theorem need_call (e : Expr) (method : String) :
    (call e method).need allowed = e.need .primary + 1 := rfl

theorem need_callWith (e a : Expr) (method : String) :
    (callWith e method a).need allowed = e.need .primary + a.need .range + 1 := rfl

end

theorem level_le_range (e : Expr) : e.level ≤ Level.range := by
  cases e with
  | number negative digits => cases negative <;> exact Nat.le_of_ble_eq_true rfl
  | binary op l r => exact op.level_le_range
  | _ => exact Nat.le_of_ble_eq_true rfl

theorem need_anti (e : Expr) {allowed other : Level} (tighter : allowed ≤ other) :
    e.need other ≤ e.need allowed := by
  unfold need
  refine Nat.add_le_add_left ?_ e.inner
  unfold pairs
  split
  · exact Nat.zero_le _
  · next loose => exact Nat.le_of_eq (if_neg fun fits => loose (Nat.le_trans fits tighter)).symm

theorem need_of_level_le {e : Expr} {allowed : Level} (fits : e.level ≤ allowed) :
    e.need allowed = e.inner := by
  rw [need, pairs, if_pos fits, Nat.add_zero]

theorem need_range (e : Expr) : e.need .range = e.inner := need_of_level_le e.level_le_range

theorem need_le (e : Expr) (allowed : Level) : e.need allowed ≤ e.need .range + 1 := by
  rw [need_range, need]
  refine Nat.add_le_add_left ?_ e.inner
  unfold pairs
  split <;> decide

end Expr

/-- Grouping in runs of a flat operator changes nothing. -/
theorem Regroups.need_eq {e f : Expr} (regroups : Regroups e f) (allowed : Level) :
    e.need allowed = f.need allowed := by
  induction regroups generalizing allowed with
  | refl e => rfl
  | symm there ih => exact (ih allowed).symm
  | trans first second ihFirst ihSecond => exact (ihFirst allowed).trans (ihSecond allowed)
  | @assoc op flat a b c =>
      have left : op.leftRoom = op.level := if_pos flat
      have right : op.rightRoom = op.level := if_pos flat
      have none : pairs op.level op.level = 0 := if_pos (Nat.le_refl _)
      simp only [Expr.need_binary, left, right, none]
      omega
  | signed sign operand ih => rw [Expr.need_signed, Expr.need_signed, ih]
  | binary op left right ihLeft ihRight => rw [Expr.need_binary, Expr.need_binary, ihLeft, ihRight]
  | cast type operand ih => rw [Expr.need_cast, Expr.need_cast, ih]
  | call method receiver ih => rw [Expr.need_call, Expr.need_call, ih]
  | callWith method receiver argument ihReceiver ihArgument =>
      rw [Expr.need_callWith, Expr.need_callWith, ihReceiver, ihArgument]

theorem need_leaf {token : Token} {e : Expr} (leaf : token.leaf? = some e) (allowed : Level) :
    e.need allowed = 0 := by
  unfold Token.leaf? at leaf
  repeat' split at leaf
  all_goals cases leaf
  all_goals exact Expr.need_of_level_le (Nat.zero_le allowed)

theorem need_apply_le (sign : Sign) (e : Expr) : (sign.apply e).need .unary ≤ e.need .unary := by
  unfold Sign.apply
  split
  · exact Nat.zero_le _
  · exact Nat.le_refl _

/-- Whatever the grammar reads as an expression has the pairs that the expression needs. -/
theorem Derives.need_le {l : Level} {ts : List Token} {e : Expr} (derived : Derives l ts e) :
    e.need l ≤ ts.count .openParen := by
  induction derived with
  | leaf leaf => rw [need_leaf leaf]; exact Nat.zero_le _
  | emptyList => exact Nat.zero_le _
  | @group ts e inner ih =>
      have count : List.count Token.openParen (Token.openParen :: (ts ++ [Token.closeParen])) =
          List.count Token.openParen ts + 1 := by simp
      rw [count]
      exact Nat.le_trans (e.need_le .primary) (Nat.add_le_add_right ih 1)
  | @call ts e method receiver ih =>
      have count : List.count Token.openParen
          (ts ++ [Token.dot, .word method, .openParen, .closeParen]) =
            List.count Token.openParen ts + 1 := by simp
      rw [Expr.need_call, count]
      exact Nat.add_le_add_right ih 1
  | @callWith ts us e a method receiver argument ihReceiver ihArgument =>
      have count : List.count Token.openParen
          (ts ++ Token.dot :: Token.word method :: Token.openParen ::
            (us ++ [Token.closeParen])) =
            List.count Token.openParen ts + List.count Token.openParen us + 1 := by
        simp [Nat.add_assoc]
      rw [Expr.need_callWith, count]
      exact Nat.add_le_add_right (Nat.add_le_add ihReceiver ihArgument) 1
  | @signed ts e sign operand ih =>
      have count : List.count Token.openParen (sign.token :: ts) =
          List.count Token.openParen ts := by
        cases sign <;> simp [Sign.token]
      rw [count]
      exact Nat.le_trans (need_apply_le sign e) ih
  | @cast ts e type operand ih =>
      have count : List.count Token.openParen (ts ++ [Token.asWord, .word type]) =
          List.count Token.openParen ts := by simp
      rw [Expr.need_cast, count]
      exact ih
  | @binary ts us l r op left right ihLeft ihRight =>
      have count : List.count Token.openParen (ts ++ Token.operator op :: us) =
          List.count Token.openParen ts + List.count Token.openParen us := by simp
      have none : pairs op.level op.level = 0 := if_pos (Nat.le_refl _)
      rw [Expr.need_binary, count, none, Nat.add_zero]
      exact Nat.add_le_add (Nat.le_trans (l.need_anti op.leftLevel_le_leftRoom) ihLeft)
        (Nat.le_trans (r.need_anti op.rightLevel_le_rightRoom) ihRight)
  | loosen tighter inner ih => exact Nat.le_trans (Expr.need_anti _ tighter) ih

/-! ## Code -/

/-- Where a character of code stands: outside of text literals, in one, or behind a backslash in
one. -/
inductive Quoting where
  | outside
  | inside
  | escaped
deriving DecidableEq

/-- Where the next character stands. -/
def Quoting.next : Quoting → Char → Quoting
  | outside, c => if c = '"' then inside else outside
  | inside, c => if c = '"' then outside else if c = '\\' then escaped else inside
  | escaped, _ => inside

/-- The opening parentheses outside of text literals. -/
def opening (quoting : Quoting) : List Char → Nat
  | [] => 0
  | c :: cs => (if quoting = .outside ∧ c = '(' then 1 else 0) + opening (quoting.next c) cs

/-- All text literals that begin in the code end in it. -/
def Closed (code : List Char) : Prop := code.foldl Quoting.next .outside = .outside

instance (code : List Char) : Decidable (Closed code) :=
  inferInstanceAs (Decidable (_ = _))

theorem opening_append (quoting : Quoting) (code tail : List Char) :
    opening quoting (code ++ tail) =
      opening quoting code + opening (code.foldl Quoting.next quoting) tail := by
  induction code generalizing quoting with
  | nil => exact (Nat.zero_add _).symm
  | cons c code ih => rw [List.cons_append, opening, opening, ih, Nat.add_assoc]; rfl

/-- Wherever the code stands outside of text literals, it has `n` opening parentheses. -/
def Counts (n : Nat) (code : List Char) : Prop :=
  ∀ rest, opening .outside (code ++ rest) = n + opening .outside rest

theorem Closed.counts {code : List Char} (closed : Closed code) :
    Counts (opening .outside code) code := by
  intro rest
  rw [opening_append, closed]

namespace Counts

variable {m n : Nat} {code tail : List Char}

theorem opening_eq (counts : Counts n code) : opening .outside code = n := by
  simpa [opening] using counts []

theorem append (first : Counts m code) (second : Counts n tail) : Counts (m + n) (code ++ tail) := by
  intro rest
  rw [List.append_assoc, first, second, Nat.add_assoc]

theorem group (inner : Counts n code) : Counts (n + 1) ('(' :: (code ++ [')'])) := by
  intro rest
  have behind : opening .outside (')' :: rest) = opening .outside rest := Nat.zero_add _
  have front : opening .outside ('(' :: (code ++ ')' :: rest)) =
      1 + opening .outside (code ++ ')' :: rest) := rfl
  rw [List.cons_append, List.append_assoc, List.singleton_append, front, inner, behind]
  omega

end Counts

/-- The code has no literals and no parentheses. -/
def Bland (code : List Char) : Prop := ∀ c ∈ code, c ≠ '(' ∧ c ≠ '"'

theorem Bland.counts {code : List Char} (bland : Bland code) : Counts 0 code := by
  intro rest
  rw [Nat.zero_add]
  induction code with
  | nil => rfl
  | cons c code ih =>
      obtain ⟨⟨parenthesis, quote⟩, others⟩ := List.forall_mem_cons.1 bland
      have stays : Quoting.outside.next c = .outside := if_neg quote
      rw [List.cons_append, opening, stays, if_neg fun opens => parenthesis opens.2, Nat.zero_add,
        ih others]

theorem Bland.before {n : Nat} {code tail : List Char} (bland : Bland code) (counts : Counts n tail) :
    Counts n (code ++ tail) := by
  rw [← Nat.zero_add n]
  exact bland.counts.append counts

theorem bland_of_all {p : Char → Bool} (parenthesis : p '(' = false) (quote : p '"' = false)
    {code : List Char} (all : ∀ c ∈ code, p c = true) : Bland code := by
  refine fun c member => ⟨?_, ?_⟩
  · rintro rfl
    cases parenthesis.symm.trans (all _ member)
  · rintro rfl
    cases quote.symm.trans (all _ member)

theorem bland_of_isNameChar {code : List Char} (named : ∀ c ∈ code, Text.isNameChar c = true) :
    Bland code :=
  bland_of_all (by decide) (by decide) named

theorem bland_of_digits {code : List Char} (digits : ∀ c ∈ code, (c.isDigit || c == '.') = true) :
    Bland code :=
  bland_of_all (by decide) (by decide) digits

theorem bland_of_numeral {digits : List Char} (numeral : Decimal.Numeral digits) :
    Bland digits := by
  refine bland_of_digits fun c member => ?_
  cases numeral with
  | whole some digits => simp [digits c member]
  | point some digits fraction behind =>
      rcases List.mem_append.1 member with member | member
      · simp [digits c member]
      rcases List.mem_cons.1 member with rfl | member
      · rfl
      · simp [behind c member]

/-! ## Tokens -/

def TextMode.quoting : TextMode → Quoting
  | escaped => .escaped
  | _ => .inside

/-- Parentheses in a text literal do not count. -/
theorem opening_readText {mode : TextMode} {cs content rest : List Char}
    (read : readText mode cs = some (content, rest)) :
    opening mode.quoting cs = opening .outside rest := by
  have later {cs : List Char} {f : List Char → List Char}
      (ih : ∀ {mode : TextMode} {content : List Char},
        readText mode cs = some (content, rest) → opening mode.quoting cs = opening .outside rest)
      {content : List Char}
      (read : (readText .plain cs).map (Prod.map f id) = some (content, rest)) :
      opening .inside cs = opening .outside rest := by
    obtain ⟨⟨content', rest'⟩, found, same⟩ := Option.map_eq_some_iff.1 read
    cases same
    exact ih found
  induction cs generalizing mode content with
  | nil => cases mode <;> cases read
  | cons c cs ih =>
      rw [opening, if_neg (by cases mode <;> simp [TextMode.quoting]), Nat.zero_add]
      cases mode with
      | plain =>
          rw [readText] at read
          split at read
          · next quote => cases read; subst quote; rfl
          · next quote =>
              split at read
              · next slash => subst slash; exact ih read
              · next slash =>
                  have stays : Quoting.inside.next c = .inside := by
                    simp [Quoting.next, quote, slash]
                  change opening (Quoting.inside.next c) cs = _
                  rw [stays]
                  exact later ih read
      | escaped =>
          rw [readText] at read
          split at read
          · exact ih read
          · obtain ⟨d, -, read⟩ := Option.bind_eq_some_iff.1 read
            exact later ih read
      | opening =>
          rw [readText] at read
          split at read
          · next brace => subst brace; exact ih read
          · cases read
      | digits count value =>
          rw [readText] at read
          split at read
          · next brace =>
              subst brace
              split at read
              · exact later ih read
              · cases read
          · obtain ⟨digit, hex, read⟩ := Option.bind_eq_some_iff.1 read
            have quote : c ≠ '"' := by
              rintro rfl
              cases hex
            have slash : c ≠ '\\' := by
              rintro rfl
              cases hex
            have stays : Quoting.inside.next c = .inside := by
              simp [Quoting.next, quote, slash]
            change opening (Quoting.inside.next c) cs = _
            rw [stays]
            exact ih read

theorem counts_quote (content : List Char) : Counts 0 (Text.quoteChars content) := by
  intro rest
  have inside := opening_readText (readText_quote content rest)
  have code : Text.quoteChars content ++ rest =
      '"' :: (content.flatMap Text.quoteChar ++ '"' :: rest) := by simp [Text.quoteChars]
  rw [code]
  exact congrArg (0 + ·) inside

/-- A numeral and what follows it make up the code. -/
theorem splitNumeral_eq (cs : List Char) :
    (splitNumeral cs).1 ++ (splitNumeral cs).2 = cs ∧ Bland (splitNumeral cs).1 := by
  have whole := List.takeWhile_append_dropWhile (p := Char.isDigit) (l := cs)
  have digits (cs : List Char) : ∀ c ∈ cs.takeWhile Char.isDigit, (c.isDigit || c == '.') = true :=
    fun c member => by simp [List.mem_takeWhile_imp member]
  unfold splitNumeral
  dsimp only
  split
  · next d rest shape =>
      rw [shape] at whole
      split
      · next digit =>
          refine ⟨?_, bland_of_digits fun c member => ?_⟩
          · rw [List.append_assoc, List.cons_append, List.cons_append,
              List.takeWhile_append_dropWhile, whole]
          · rcases List.mem_append.1 member with member | member
            · exact digits cs c member
            · rcases List.mem_cons.1 member with rfl | member
              · rfl
              rcases List.mem_cons.1 member with rfl | member
              · simp [digit]
              · exact digits rest c member
      · exact ⟨whole, bland_of_digits (digits cs)⟩
  · exact ⟨whole, bland_of_digits (digits cs)⟩

/-- What a token takes from the parentheses of the code. -/
theorem opening_token? {cs rest : List Char} {t : Token} (first : token? cs = some (t, rest)) :
    opening .outside cs = [t].count .openParen + opening .outside rest := by
  cases cs with
  | nil => cases first
  | cons c cs =>
      rw [token?] at first
      split at first
      · obtain ⟨whole, bland⟩ := splitNumeral_eq (c :: cs)
        dsimp only at first
        split at first
        · cases first
        · cases first
          rw [← whole, bland.counts, whole]
          rfl
      split at first
      · next digit start =>
          cases first
          have named : ∀ d ∈ c :: cs.takeWhile Text.isNameChar, Text.isNameChar d = true := by
            refine List.forall_mem_cons.2 ⟨?_, fun d member => List.mem_takeWhile_imp member⟩
            exact Text.isNameChar_of_isNameStart start
          have whole : (c :: cs.takeWhile Text.isNameChar) ++ cs.dropWhile Text.isNameChar =
              c :: cs := by rw [List.cons_append, List.takeWhile_append_dropWhile]
          rw [← whole, (bland_of_isNameChar named).counts]
          have word : wordToken (String.ofList (c :: cs.takeWhile Text.isNameChar)) ≠ .openParen := by
            unfold wordToken
            split <;> simp
          rw [List.count_eq_zero.2 fun member => word (List.mem_singleton.1 member).symm]
      split at first
      · next quote =>
          subst quote
          obtain ⟨⟨content, rest⟩, read, same⟩ := Option.map_eq_some_iff.1 first
          cases same
          have inside : opening .inside cs = opening .outside rest := opening_readText read
          change 0 + opening .inside cs = 0 + opening .outside rest
          rw [inside]
      · obtain ⟨⟨symbol, token⟩, member, found⟩ := List.exists_of_findSome?_eq_some first
        dsimp only at found
        split at found
        · next starts =>
            cases found
            have all : ∀ entry ∈ symbols,
                opening .outside entry.1 = [entry.2].count .openParen ∧ Closed entry.1 := by decide
            obtain ⟨count, closed⟩ := all _ member
            obtain ⟨tail, whole⟩ := List.isPrefixOf_iff_prefix.1 starts
            rw [← whole, List.drop_left, closed.counts, count]
        · cases found

/-- The tokens of code have its parentheses. -/
theorem Scans.count_eq {cs : List Char} {ts : List Token} (scans : Scans cs ts) :
    ts.count .openParen = opening .outside cs := by
  induction scans with
  | nil => rfl
  | @blank c cs ts blank rest ih =>
      have bland : Bland [c] :=
        bland_of_all (by decide) (by decide) (List.forall_mem_singleton.2 blank)
      rw [ih, ← List.singleton_append, bland.counts, Nat.zero_add]
  | @token cs t rest ts first others ih =>
      rw [opening_token? first, ← ih, ← List.count_append, List.singleton_append]

/-! ## Code without a pair too many -/

/-- The code reads as the tree and needs all its parentheses. When a pair outside of text literals is
taken out, what is left is not an expression or another one, however runs of one conjunction or
disjunction are grouped. -/
structure Frugal (code : String) (tree : Expr) : Prop where
  reads : ReadsAs code tree
  needed : ∀ before within after, code.toList = before ++ '(' :: (within ++ ')' :: after) →
    Closed before → Closed within →
      ∀ e, Parses (String.ofList (before ++ (within ++ after))) e → ¬ Regroups tree e

theorem frugal_of_counts {code : String} {tree : Expr} (reads : ReadsAs code tree)
    (counts : Counts (tree.need .range) code.toList) : Frugal code tree := by
  refine ⟨reads, fun before within after spelled first second e parses regroups => ?_⟩
  obtain ⟨ts, scans, derived⟩ := parses
  rw [String.toList_ofList] at scans
  have least : tree.need .range ≤ opening .outside (before ++ (within ++ after)) := by
    rw [regroups.need_eq, ← scans.count_eq]
    exact derived.need_le
  have all := counts.opening_eq
  have behind : opening .outside (')' :: after) = opening .outside after := Nat.zero_add _
  have front : opening .outside ('(' :: (within ++ ')' :: after)) =
      1 + opening .outside (within ++ ')' :: after) := rfl
  rw [spelled, first.counts, front, second.counts, behind] at all
  rw [first.counts, second.counts] at least
  omega

/-- The code can stand where an expression of the level is expected, and has the parentheses that the
tree needs there. -/
structure Fits (l : Level) (code : String) (tree : Expr) : Prop where
  reads : Reads l code.toList tree
  counts : Counts (tree.need l) code.toList

theorem Fits.frugal {code : String} {tree : Expr} (fits : Fits .range code tree) :
    Frugal code tree :=
  frugal_of_counts fits.reads.readsAs fits.counts

end SolanaBlocks.Grammar
