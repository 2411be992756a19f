import SolanaBlocks.Proofs.Grammar.Parentheses
import SolanaBlocks.Proofs.Precedence.Embedding

/-!
# Parentheses in emitted code

A fragment goes into parentheses where its tier is too loose for its place. The tier stands for the
level of its tree, so these are the places where the grammar asks for parentheses, and the code of
every expression has as many of them as its tree needs. So has the code of a statement that puts
operators of its own around an expression. No pair can be taken out of either.
-/

namespace SolanaBlocks

open Grammar

namespace Tier

theorem level_lt {tier other : Tier} (tighter : tier < other) : tier.level < other.level := by
  have mono : ∀ n m : Nat, n < m →
      (if n ≤ 1 then n else n + 1) < (if m ≤ 1 then m else m + 1) := by
    intro n m lt
    split <;> split <;> omega
  exact mono tier other tighter

/-- No block makes a cast. -/
theorem level_ne_cast (tier : Tier) : tier.level ≠ Level.cast := by
  have skipped : ∀ n : Nat, (if n ≤ 1 then n else n + 1) ≠ 2 := by
    intro n
    split <;> omega
  exact skipped tier

end Tier

namespace Grammar.Expr

theorem need_of_lt {e : Expr} {allowed : Level} (loose : allowed < e.level) :
    e.need allowed = e.need .range + 1 := by
  rw [need_range, need, pairs, if_neg (Nat.not_le_of_lt loose)]

/-- Only for a cast does it matter whether a sign or another cast is put to it. -/
theorem need_unary {e : Expr} (other : e.level ≠ .cast) : e.need .unary = e.need .cast := by
  have same : e.level ≤ Level.unary ↔ e.level ≤ Level.cast :=
    ⟨fun fits => Nat.le_trans fits (by decide),
      fun fits => Nat.le_of_lt_succ (Nat.lt_of_le_of_ne fits other)⟩
  simp only [need, pairs, same]

theorem need_leftTier {op : Operator} (bounded : op ≠ .through) (e : Expr) :
    e.need (operandTier op.tier op.associativity .left).level = e.need op.leftRoom := by
  cases op with
  | through => exact absurd rfl bounded
  | _ => rfl

theorem need_rightTier {op : Operator} (bounded : op ≠ .through) {e : Expr}
    (other : e.level ≠ .cast) :
    e.need (operandTier op.tier op.associativity .right).level = e.need op.rightRoom := by
  cases op with
  | through => exact absurd rfl bounded
  | mul | div => exact need_unary other
  | _ => rfl

end Grammar.Expr

/-- The fragment of an expression: its code has as many parentheses as the tree needs, and its tier
stands for the level of the tree. -/
structure Spares (fragment : Fragment) (tree : Expr) : Prop where
  tiered : ∃ tier, fragment.tier = some tier ∧ tier.level = tree.level
  counts : Counts (tree.need .range) fragment.code.toList

namespace Spares

variable {fragment : Fragment} {tree : Expr}

theorem level_ne_cast (spares : Spares fragment tree) : tree.level ≠ .cast := by
  obtain ⟨tier, -, level⟩ := spares.tiered
  rw [← level]
  exact tier.level_ne_cast

theorem wrap (spares : Spares fragment tree) (required : Tier) :
    Counts (tree.need required.level) (fragment.wrap required).toList := by
  obtain ⟨tier, tiered, level⟩ := spares.tiered
  unfold Fragment.wrap needsParentheses
  rw [tiered, Option.getD_some]
  split
  · next loose =>
      have loose : required < tier := by simpa using loose
      rw [Expr.need_of_lt (level ▸ Tier.level_lt loose)]
      simpa using spares.counts.group
  · next fits =>
      have fits : tier ≤ required := by simpa using fits
      rw [Expr.need_of_level_le (level ▸ Tier.level_mono fits), ← Expr.need_range]
      exact spares.counts

theorem settleTier (spares : Spares fragment tree) {type : BlockType}
    (produces : type.producesValue) : Spares (Emitter.settleTier type fragment) tree := by
  obtain ⟨tier, tiered, level⟩ := spares.tiered
  refine ⟨⟨tier, ?_, level⟩, spares.counts⟩
  simp [Emitter.settleTier, produces, tiered]

theorem atomic {code : String} (level : tree.level = .primary) (leaf : tree.inner = 0)
    (bland : Bland code.toList) : Spares ⟨code, some .atomic⟩ tree := by
  refine ⟨⟨.atomic, rfl, level.symm⟩, ?_⟩
  rw [Expr.need_range, leaf]
  exact bland.counts

/-- A name, a truth value or an integer. -/
theorem word {code : String} (level : tree.level = .primary) (leaf : tree.inner = 0)
    (named : code.toList.all Text.isNameChar) : Spares ⟨code, some .atomic⟩ tree :=
  .atomic level leaf (bland_of_isNameChar (List.all_eq_true.1 named))

end Spares

/-- All answers about expression blocks have the parentheses of their trees. -/
def Sparing (w : Workspace) (answer : BlockId → Except EmitError Fragment) : Prop :=
  ∀ id block fragment, w.get? id = some block → block.type ∈ Palette.Standard.expressionIds →
    answer id = .ok fragment → ∃ tree, Denotes w id tree ∧ Spares fragment tree

namespace Site

variable {site : Site} {answer : BlockId → Except EmitError Fragment}

/-- The code of a slot has the parentheses that the tree in the slot needs in its place. -/
theorem counts_value (palette : site.palette = .standard)
    (sparing : Sparing site.workspace answer) {slot default code : String} {required : Tier}
    {empty : Expr}
    (declared : (Palette.standard.get? site.block.type).bind (BlockType.slot? · slot) =
      some (.expression slot default))
    (fallback : Spares ⟨default, some .atomic⟩ empty)
    (rendered : (site.value slot required).run answer = .ok code) :
    ∃ tree, DenotesIn site.workspace site.block slot empty tree ∧ tree.level ≠ .cast ∧
      Counts (tree.need required.level) code.toList := by
  rcases standard_value palette declared rendered with
    ⟨nothing, rfl⟩ | ⟨child, block, fragment, held, found, expression, answered, rfl⟩
  · exact ⟨empty, .empty nothing, fallback.level_ne_cast, fallback.wrap required⟩
  · obtain ⟨tree, denotes, spares⟩ := sparing child block fragment found expression answered
    exact ⟨tree, .filled held denotes, spares.level_ne_cast, spares.wrap required⟩

theorem Fallback.spares {default : String} {empty : Expr} (fallback : Fallback default empty) :
    Spares ⟨default, some .atomic⟩ empty := by
  cases fallback with
  | zero => exact .word rfl rfl (by decide)
  | false => exact .word rfl rfl (by decide)

/-- The fragment of an expression block has the parentheses of its tree if the answers about its
operands have those of theirs. -/
theorem spares_standard (palette : site.palette = .standard)
    (sparing : Sparing site.workspace answer)
    (found : site.workspace.get? site.id = some site.block)
    (expression : site.block.type ∈ Palette.Standard.expressionIds) {renderer : Renderer}
    (rendered : Renderers.standard? site.block.type = some renderer) {raw : Fragment}
    (ran : (renderer site).run answer = .ok raw) :
    ∃ tree, Denotes site.workspace site.id tree ∧ Spares raw tree := by
  obtain ⟨shape, shown, forms⟩ := forms_standard palette expression rendered ran
  cases forms with
  | truth value =>
      have named : (toString value).toList.all Text.isNameChar := by cases value <;> decide
      exact ⟨_, .leaf found shown, .word rfl rfl named⟩
  | text content =>
      refine ⟨_, .leaf found shown, ⟨.atomic, rfl, rfl⟩, ?_⟩
      rw [Text.quote, String.toList_ofList]
      exact counts_quote content.toList
  | name valid => exact ⟨_, .leaf found shown, .word rfl rfl (word_of_isIdentifier valid).2.1⟩
  | @number x finite =>
      obtain ⟨digits, written, spelled⟩ := Decimal.numberText_toList finite
      rw [Shape.number_eq spelled] at shown
      refine ⟨_, .leaf found shown, ⟨_, rfl, ?_⟩, ?_⟩
      · cases (BinaryNumber.ofFloat x).isBelowZero <;> rfl
      · have bland := bland_of_numeral written.numeral
        rw [Expr.need_range]
        change Counts 0 (FieldValue.numberText _).toList
        rw [spelled]
        cases (BinaryNumber.ofFloat x).isBelowZero with
        | false => exact bland.counts
        | true =>
            have minus : Bland ['-'] := by simp [Bland]
            exact minus.before bland.counts
  | @negation operand slot inner =>
      obtain ⟨tree, inside, -, counts⟩ :=
        counts_value palette sparing slot Fallback.false.spares inner
      refine ⟨.signed .not tree, .negation found shown inside, ⟨.unary, rfl, rfl⟩, ?_⟩
      have not : Bland "!".toList := by simp [Bland]
      change Counts (tree.need .unary) ("!" ++ operand).toList
      rw [String.toList_append]
      exact not.before counts
  | @operation op default empty left right bounded fallback first second leftRan rightRan =>
      obtain ⟨a, inLeft, -, leftCounts⟩ :=
        counts_value palette sparing first fallback.spares leftRan
      obtain ⟨b, inRight, other, rightCounts⟩ :=
        counts_value palette sparing second fallback.spares rightRan
      refine ⟨.binary op a b, .operation found shown inLeft inRight, ⟨op.tier, rfl, ?_⟩, ?_⟩
      · cases op <;> first | rfl | exact absurd rfl bounded
      · have code : (left ++ " " ++ op.spelling ++ " " ++ right).toList =
            left.toList ++ (' ' :: (op.symbol ++ [' ']) ++ right.toList) := by
          simp [Operator.spelling]
        have bland : Bland (' ' :: (op.symbol ++ [' '])) := by
          cases op <;> simp [Bland, Operator.symbol]
        have tight : pairs .range op.level = 0 := if_pos op.level_le_range
        change Counts _ (left ++ " " ++ op.spelling ++ " " ++ right).toList
        rw [code, Expr.need_binary, tight, Nat.add_zero, ← Expr.need_leftTier bounded,
          ← Expr.need_rightTier bounded other]
        exact leftCounts.append (bland.before rightCounts)

end Site

theorem Emitter.sparing_emitWithin (w : Workspace) (width : Nat) (open_ : List BlockId) :
    Sparing w ((standard width).emitWithin w open_) := by
  refine expressions_induction (fun palette same found answers expression rendered ran produces => ?_)
    open_
  subst same
  obtain ⟨tree, denotes, spares⟩ :=
    Site.spares_standard palette answers found expression rendered ran
  exact ⟨tree, denotes, spares.settleTier produces⟩

/-! ## Statements -/

namespace Grammar.Fits

theorem numeral {digits : String} (numeral : Decimal.Numeral digits.toList) {l : Level} :
    Fits l digits (.number false digits) := by
  have reads : Reads .primary digits.toList (.number false digits) := by
    simpa using Reads.numeral numeral
  refine ⟨reads.loosen (Nat.zero_le l), ?_⟩
  rw [Expr.need_of_level_le (Nat.zero_le l)]
  exact (bland_of_numeral numeral).counts

/-- What can have a sign can be cast, and needs no more parentheses for it. -/
theorem operand_of_cast {code : String} {tree : Expr} (fits : Fits .unary code tree)
    (other : tree.level ≠ .cast) : Fits .cast code tree := by
  refine ⟨fits.reads.loosen (by decide), ?_⟩
  rw [← Expr.need_unary other]
  exact fits.counts

end Grammar.Fits

/-- The comparison of the number of accounts with a bound. -/
theorem frugal_count {code : String} {least : Expr} (fits : Fits .sum code least) :
    Frugal ("accounts.len() < " ++ code) (.binary .lt (.call (.name "accounts") "len") least) := by
  refine frugal_of_counts (reads_count fits.reads) ?_
  have need : (Expr.binary .lt (.call (.name "accounts") "len") least).need .range =
      1 + least.need .sum := rfl
  have front : Counts 1 "accounts.len() < ".toList := Closed.counts (by decide)
  rw [need, String.toList_append]
  exact front.append fits.counts

theorem frugal_steps {start stop step : String} {a b c : Expr} (first : Fits .disjunction start a)
    (last : Fits .disjunction stop b) (size : Fits .cast step c) :
    Frugal ("(" ++ start ++ "..=" ++ stop ++ ").step_by(" ++ step ++ " as usize)")
        (.callWith (.binary .through a b) "step_by" (.cast c "usize")) ∧
      Frugal ("(" ++ start ++ "..=" ++ stop ++ ").rev().step_by(" ++ step ++ " as usize)")
        (.callWith (.call (.binary .through a b) "rev") "step_by" (.cast c "usize")) := by
  obtain ⟨forward, backward⟩ := reads_steps first.reads last.reads size.reads
  have bounds : (Expr.binary .through a b).need .primary =
      a.need .disjunction + b.need .disjunction + 1 := rfl
  have cast : (Expr.cast c "usize").need .range = c.need .cast := rfl
  have front : Counts 1 "(".toList := Closed.counts (by decide)
  have dots : Bland "..=".toList := by simp [Bland]
  have behind : Counts 0 " as usize)".toList := Closed.counts (by decide)
  have range := first.counts.append (dots.before last.counts)
  have step := size.counts.append behind
  refine ⟨frugal_of_counts forward ?_, frugal_of_counts backward ?_⟩
  · have middle : Counts 1 ").step_by(".toList := Closed.counts (by decide)
    have all := front.append (range.append (middle.append step))
    rw [Expr.need_callWith, bounds, cast]
    convert all using 1
    · omega
    · simp
  · have middle : Counts 2 ").rev().step_by(".toList := Closed.counts (by decide)
    have all := front.append (range.append (middle.append step))
    rw [Expr.need_callWith, Expr.need_call, bounds, cast]
    convert all using 1
    · omega
    · simp

theorem frugal_borrow {code : String} {data : Expr} (fits : Fits .unary code data) :
    Frugal ("&" ++ code) (.signed .borrow data) := by
  refine frugal_of_counts (fits.reads.readsAs_borrow (by simp)) ?_
  have need : (Expr.signed .borrow data).need .range = data.need .unary := rfl
  have borrow : Bland "&".toList := by simp [Bland]
  rw [need, String.toList_append]
  exact borrow.before fits.counts

namespace Site

variable {site : Site} {width : Nat} {open_ : List BlockId} {raw : Fragment}
  (palette : site.palette = .standard)

include palette

/-- The code of a slot, wherever a statement takes it. -/
theorem fits_value {slot default code : String} {required : Tier} {empty : Expr}
    (declared : (Palette.standard.get? site.block.type).bind (BlockType.slot? · slot) =
      some (.expression slot default))
    (reads : Reads .primary default.toList empty) (spares : Spares ⟨default, some .atomic⟩ empty)
    (rendered : (site.value slot required).run
      ((Emitter.standard width).emitWithin site.workspace open_) = .ok code) :
    ∃ tree, DenotesIn site.workspace site.block slot empty tree ∧ tree.level ≠ .cast ∧
      Fits required.level code tree := by
  obtain ⟨tree, inside, reads⟩ :=
    reads_value palette (Emitter.expressive_emitWithin _ width open_) declared reads rendered
  obtain ⟨tree', inside', other, counts⟩ :=
    counts_value palette (Emitter.sparing_emitWithin _ width open_) declared spares rendered
  cases inside.unique inside'
  exact ⟨tree, inside, other, reads, counts⟩

theorem frugal_validateAccounts (type : site.block.type = "validate_accounts")
    (ran : (Renderers.validateAccounts site).run
      ((Emitter.standard width).emitWithin site.workspace open_) = .ok raw) :
    ∃ condition after least,
      DenotesIn site.workspace site.block "min_accounts" (.number false "2") least ∧
      raw.code = "let account_iter = &mut accounts.iter();\nif " ++ condition ++ " \x7b\n" ++ after ∧
      Frugal condition (.binary .lt (.call (.name "accounts") "len") least) := by
  obtain ⟨code, after, leastRan, spelled⟩ := validateAccounts_run ran
  obtain ⟨tree, inside, -, fits⟩ :=
    fits_value palette (by rw [type]; rfl) reads_two (.word rfl rfl (by decide)) leastRan
  exact ⟨_, after, tree, inside, spelled, frugal_count fits⟩

theorem frugal_countedLoop (type : site.block.type = "controls_for")
    (ran : (Renderers.countedLoop site).run
      ((Emitter.standard width).emitWithin site.workspace open_) = .ok raw) :
    ∃ name range after start stop step,
      DenotesIn site.workspace site.block "start" (.number false "0") start ∧
      DenotesIn site.workspace site.block "end" (.number false "0") stop ∧
      DenotesIn site.workspace site.block "step" (.number false "1") step ∧
      raw.code = "for " ++ name ++ " in " ++ range ++ " \x7b\n" ++ after ∧
      Frugal range (loopRange start stop step) := by
  obtain ⟨name, start, stop, step, c, range, body, startRan, stopRan, stepRan, inStep, code,
    spelled⟩ := countedLoop_range palette type ran
  obtain ⟨a, inStart, -, startFits⟩ :=
    fits_value palette (by rw [type]; rfl) reads_zero (.word rfl rfl (by decide)) startRan
  obtain ⟨b, inStop, -, stopFits⟩ :=
    fits_value palette (by rw [type]; rfl) reads_zero (.word rfl rfl (by decide)) stopRan
  refine ⟨name, range, _, a, b, c, inStart, inStop, inStep, spelled, ?_⟩
  rw [loopRange]
  cases code with
  | forward unsigned =>
      obtain ⟨c', inStep', other, stepFits⟩ :=
        fits_value palette (by rw [type]; rfl) reads_one (.word rfl rfl (by decide)) stepRan
      cases inStep.unique inStep'
      rw [unsigned]
      exact (frugal_steps startFits stopFits (stepFits.operand_of_cast other)).1
  | @backward size signed numeral =>
      rw [signed]
      exact (frugal_steps stopFits startFits (.numeral numeral)).2

theorem frugal_callProgram (type : site.block.type = "cpi_call")
    (ran : (Renderers.callProgram site).run
      ((Emitter.standard width).emitWithin site.workspace open_) = .ok raw) :
    ∃ program borrowed after data,
      DenotesIn site.workspace site.block "data" .emptyList data ∧
      raw.code = "invoke(\n" ++ site.unit ++ "&Instruction::new_with_bytes(\n" ++
        site.unit ++ site.unit ++ program ++ ",\n" ++
        site.unit ++ site.unit ++ borrowed ++ ",\n" ++ after ∧
      Frugal borrowed (.signed .borrow data) := by
  obtain ⟨program, code, after, dataRan, spelled⟩ := callProgram_run ran
  obtain ⟨data, inside, -, fits⟩ := fits_value palette (by rw [type]; rfl)
    (by simpa using Reads.emptyList) (.atomic rfl rfl (by simp [Bland])) dataRan
  exact ⟨program, "&" ++ code, after, data, inside, spelled, frugal_borrow fits⟩

end Site

namespace Emitter

/-- No pair of parentheses can be taken out of the code of an expression, and none out of the code of
a statement around an expression, without a change of the tree. -/
theorem frugal_emitWithin (w : Workspace) (width : Nat) (open_ : List BlockId) (id : BlockId)
    (block : Block) (fragment : Fragment) (found : w.get? id = some block)
    (emitted : (standard width).emitWithin w open_ id = .ok fragment) :
    (block.type ∈ Palette.Standard.expressionIds →
      ∃ tree, (∀ e, Denotes w id e ↔ e = tree) ∧ Frugal fragment.code tree) ∧
    (block.type = "validate_accounts" →
      ∃ condition after least,
        (∀ e, DenotesIn w block "min_accounts" (.number false "2") e ↔ e = least) ∧
        fragment.code =
          "let account_iter = &mut accounts.iter();\nif " ++ condition ++ " \x7b\n" ++ after ∧
        Frugal condition (.binary .lt (.call (.name "accounts") "len") least)) ∧
    (block.type = "controls_for" →
      ∃ name range after start stop step,
        (∀ e, DenotesIn w block "start" (.number false "0") e ↔ e = start) ∧
        (∀ e, DenotesIn w block "end" (.number false "0") e ↔ e = stop) ∧
        (∀ e, DenotesIn w block "step" (.number false "1") e ↔ e = step) ∧
        fragment.code = "for " ++ name ++ " in " ++ range ++ " \x7b\n" ++ after ∧
        Frugal range (loopRange start stop step)) ∧
    (block.type = "cpi_call" →
      ∃ program borrowed after data,
        (∀ e, DenotesIn w block "data" .emptyList e ↔ e = data) ∧
        fragment.code = "invoke(\n" ++ (standard width).unit ++ "&Instruction::new_with_bytes(\n" ++
          (standard width).unit ++ (standard width).unit ++ program ++ ",\n" ++
          (standard width).unit ++ (standard width).unit ++ borrowed ++ ",\n" ++ after ∧
        Frugal borrowed (.signed .borrow data)) := by
  obtain ⟨block', type, renderer, raw, found', closed, known, rendered, ran, rfl⟩ :=
    emitWithin_eq_ok emitted
  cases found.symm.trans found'
  let site : Site := ⟨w, .standard, (standard width).unit, id, block⟩
  have palette : site.palette = .standard := rfl
  have renders {renderer' : Renderer} (same : Renderers.standard? block.type = some renderer') :
      (renderer' site).run ((standard width).emitWithin w (id :: open_)) = .ok raw := by
    cases rendered.symm.trans same
    exact ran
  refine ⟨fun expression => ?_, fun counts => ?_, fun loops => ?_, fun calls => ?_⟩
  · obtain ⟨tree, tier, denotes, expresses⟩ :=
      expressive_emitWithin w width open_ id block _ found expression emitted
    obtain ⟨tree', denotes', spares⟩ :=
      sparing_emitWithin w width open_ id block _ found expression emitted
    cases denotes.unique denotes'
    have loosest : tier.level ≤ Level.range := Nat.le_trans (Tier.level_mono expresses.tier_le)
      (by decide : Tier.disjunction.level ≤ Level.range)
    have fits : Fits .range _ tree := ⟨expresses.reads.loosen loosest, spares.counts⟩
    exact ⟨tree, denotes.iff_eq, fits.frugal⟩
  · obtain ⟨condition, after, least, inside, code, frugal⟩ :=
      Site.frugal_validateAccounts palette counts (renders (by rw [counts]; rfl))
    exact ⟨condition, after, least, inside.iff_eq, code, frugal⟩
  · obtain ⟨name, range, after, start, stop, step, inStart, inStop, inStep, code, frugal⟩ :=
      Site.frugal_countedLoop palette loops (renders (by rw [loops]; rfl))
    exact ⟨name, range, after, start, stop, step, inStart.iff_eq, inStop.iff_eq, inStep.iff_eq,
      code, frugal⟩
  · obtain ⟨program, borrowed, after, data, inside, code, frugal⟩ :=
      Site.frugal_callProgram palette calls (renders (by rw [calls]; rfl))
    exact ⟨program, borrowed, after, data, inside.iff_eq, code, frugal⟩

/-- A loop whose step is a difference with a sum on its right. -/
theorem frugal_emitWithin_loop :
    let handler : Block :=
      { type := "process_instruction", fields := ∅
        slots := Std.ExtTreeMap.insert ∅ "body" (.chain ⟨"a"⟩) }
    let loop : Block :=
      { type := "controls_for", fields := ∅, seat := Seat.mk ⟨"h"⟩ "body"
        slots := Std.ExtTreeMap.insert ∅ "step" (.single ⟨"b"⟩) }
    let difference : Block :=
      { type := "math_operation"
        fields := Std.ExtTreeMap.insert ∅ "operation" (.text "SUB")
        slots := Std.ExtTreeMap.insert ∅ "b" (.single ⟨"c"⟩) }
    let sum : Block := { type := "math_operation", fields := ∅ }
    let w : Workspace :=
      { palette := .standard
        blocks := (Std.ExtTreeMap.insert ∅ ⟨"h"⟩ handler).insert ⟨"a"⟩ loop
          |>.insert ⟨"b"⟩ difference |>.insert ⟨"c"⟩ sum
        roots := [⟨"h"⟩] }
    let code := "for i in (0..=0).step_by((0 - (0 + 0)) as usize) \x7b\n\x7d\n"
    (w.get? ⟨"b"⟩ = some difference ∧
      (standard 4).emitWithin w [] ⟨"b"⟩ = .ok ⟨"0 - (0 + 0)", some .additive⟩ ∧
      difference.type ∈ Palette.Standard.expressionIds ∧
      ∃ tree, (∀ e, Denotes w ⟨"b"⟩ e ↔ e = tree) ∧ Frugal "0 - (0 + 0)" tree) ∧
    w.get? ⟨"a"⟩ = some loop ∧ (standard 4).emitWithin w [] ⟨"a"⟩ = .ok ⟨code, none⟩ ∧
      loop.type = "controls_for" ∧
      ∃ name range after start stop step,
        (∀ e, DenotesIn w loop "start" (.number false "0") e ↔ e = start) ∧
        (∀ e, DenotesIn w loop "end" (.number false "0") e ↔ e = stop) ∧
        (∀ e, DenotesIn w loop "step" (.number false "1") e ↔ e = step) ∧
        code = "for " ++ name ++ " in " ++ range ++ " \x7b\n" ++ after ∧
        Frugal range (loopRange start stop step) := by
  intro handler loop difference sum w code
  have inner : w.get? ⟨"b"⟩ = some difference := rfl
  have emitted : (standard 4).emitWithin w [] ⟨"b"⟩ = .ok ⟨"0 - (0 + 0)", some .additive⟩ := by
    decide +kernel
  have expression : difference.type ∈ Palette.Standard.expressionIds := by decide
  have outer : w.get? ⟨"a"⟩ = some loop := rfl
  have looped : (standard 4).emitWithin w [] ⟨"a"⟩ = .ok ⟨code, none⟩ := by decide +kernel
  have type : loop.type = "controls_for" := rfl
  exact ⟨⟨inner, emitted, expression, (frugal_emitWithin w 4 [] _ _ _ inner emitted).1 expression⟩,
    outer, looped, type, (frugal_emitWithin w 4 [] _ _ _ outer looped).2.2.1 type⟩

end Emitter

end SolanaBlocks
